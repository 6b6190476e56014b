import GatewayOperator.Document.Fragment
import GatewayOperator.Identity.Client
import GatewayOperator.Source

/-!
# Resolving a configuration

## Main Definitions

* `Source.layer?` — the layer that a source yields.
* `resolveLayers` — the layers of all sources merged in order.
* `resolve` — the document of a list of sources.

## Design Notes

A client registration is carried out after all other sources have been read, wherever it stands in
the list, so that nothing is registered for a configuration that cannot be read.
-/

namespace GatewayOperator

/-- The value of a header. -/
def WebHeader.resolve (namespace_ : String) : WebHeader → Attempt (String × String)
  | .literal name value => return (name, value)
  | .secret name secretName key => do
    let secret ← Attempt.ofStore (Program.query (.getSecret namespace_ secretName))
    match secret.value? key with
    | some value => return (name, value)
    | none => throw (.notFound (.entry .secret secretName key))

namespace Source

/-- The layer in a data entry of a config map. -/
def configMapLayer (namespace_ name key : String) : Attempt Document := do
  let configMap ← Attempt.ofStore (Program.query (.getConfigMap namespace_ name))
  match configMap.entry? key with
  | some text => Attempt.ofExcept (Document.parse (describeConfigMap name key) text)
  | none => throw (.notFound (.entry .configMap name key))

/-- The layer behind an address. -/
def webLayer (namespace_ url : String) (headers : List WebHeader) : Attempt Document := do
  let headers ← headers.mapM (WebHeader.resolve namespace_)
  let response ← Attempt.fetch { method := .get, url, headers }
  if !response.isSuccess then
    throw (.fetch url (.status response.status))
  Attempt.ofExcept (Document.parse (describeWeb url) response.body)

/-- The layer of a source; a registration has none. -/
def layer? (namespace_ : String) (source : Source) : Attempt (Option Document) :=
  match source with
  | .literal value => some <$> Attempt.ofExcept (Document.parse source.describe value)
  | .configMap name key => some <$> configMapLayer namespace_ name key
  | .web url headers => some <$> webLayer namespace_ url headers
  | .registration _ => return none

end Source

/-- The layers of some sources merged in order, on top of a document. -/
def resolveLayers (namespace_ : String) : List Source → Document → Attempt Document
  | [], document => return document
  | source :: rest, document => do
    match ← source.layer? namespace_ with
    | some layer => resolveLayers namespace_ rest (document.merge layer)
    | none => resolveLayers namespace_ rest document

/-- The document with its identity section pointing at a client, which is registered if need be. -/
def resolveIdentity (namespace_ : String) (registration : Option Registration)
    (document : Document) : Attempt Document :=
  match registration with
  | none => return document
  | some r => do
    let _ ← r.ensureClient namespace_
    return r.applyTo document

/-- The registration of a list of sources. -/
def registrationOf? (sources : List Source) : Option Registration :=
  (sources.filterMap Source.registration?).getLast?

/-- The document of a list of sources, uncounted. -/
def resolveAll (namespace_ : String) (sources : List Source) : Attempt Document := do
  Attempt.ofExcept (Source.validate sources)
  let document ← resolveLayers namespace_ sources .empty
  resolveIdentity namespace_ (registrationOf? sources) document

/-- The label under which the outcome of a resolution is counted. -/
def resolutionLabel : Except Failure Document → String
  | .ok _ => "success"
  | .error failure => failure.kind

/-- The document of a list of sources. -/
def resolve (namespace_ : String) (sources : List Source) : Attempt Document :=
  ExceptT.mk do
    let result ← (resolveAll namespace_ sources).run
    Program.query (.measure (.resolution (resolutionLabel result)))
    return result

end GatewayOperator
