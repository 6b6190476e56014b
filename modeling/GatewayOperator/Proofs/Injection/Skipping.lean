import GatewayOperator.Proofs.Injection.Classification

/-!
# Parts that an update leaves out

An update makes anew only the parts of a gateway that some change concerns.  This module says that
nothing is lost: a part that is left out would come out as it was, for every two states of the
annotations.

## Main Definitions

* `SameContainer` — the container of a gateway comes out the same for two states of a workload.

## Main Statements

* `Annotations.sameContainer_of_unchanged` — the container is the same where neither it nor the
  configuration is concerned.
* `Annotations.skipped_parts` — every part that is left out is the same.

## Design Notes

Keys are classified by how they start, and a part reads some keys by their full names and others by
how they start.  So a part may be made anew although it reads none of the changed keys, but it reads
no key that is classified otherwise.  Changes of a pod's environment are not looked at, so there the
container is the same up to its environment only.
-/

namespace GatewayOperator

/-- The container without its environment. -/
def Container.withoutEnv (c : Container) : Container := { c with env := none }

/-- Under whatever names, the container of a gateway comes out the same for two states of a
workload, or is refused for the same reason.  In a single pod the environment is left out of
account. -/
def SameContainer (kind : WorkloadKind) (a b : TextMap) : Prop :=
  ∀ names : SidecarNames, match kind with
    | .deployment => sidecarContainer names a = sidecarContainer names b
    | .pod => (sidecarContainer names a).map Container.withoutEnv =
        (sidecarContainer names b).map Container.withoutEnv

namespace Annotations

variable {a b : TextMap} {part : GatewayPart} {isPod : Bool}

/-- What concerns the environment concerns the container and nothing else. -/
theorem container_of_isEnvKey {key : String} (env : isEnvKey key = true) :
    partOf? key = some .container := by
  obtain ⟨rest, rfl⟩ := Text.hasPrefix_iff.mp env
  rw [String.append_assoc]
  exact partOf?_env rest

/-- A part other than the container that no change concerns has the same settings, in pods, too. -/
theorem agree_of_unchanged_of_ne (other : part ≠ .container)
    (unchanged : part ∉ (changedKeys a b isPod).filterMap partOf?) : Agree part a b := by
  intro key concerns
  refine get?_eq_of_unchanged concerns ?_ unchanged
  rw [Bool.and_eq_false_imp]
  rintro -
  refine Bool.eq_false_iff.mpr fun env => other ?_
  exact Option.some.inj (concerns.symm.trans (container_of_isEnvKey env))

/-- A setting with a key of its own is the same where no change concerns the container. -/
theorem vendor?_of_unchanged {key : String}
    (concerns : partOf? (WellKnown.vendorPrefix ++ key) = some .container)
    (notEnv : isEnvKey (WellKnown.vendorPrefix ++ key) = false)
    (unchanged : .container ∉ (changedKeys a b isPod).filterMap partOf?) :
    vendor? a key = vendor? b key := by
  unfold vendor? nonEmpty?
  rw [get?_eq_of_unchanged concerns (by rw [notEnv, Bool.and_false]) unchanged]

/-- A container that no change concerns comes out the same. -/
theorem sameContainer_of_unchanged (kind : WorkloadKind)
    (unchanged : .container ∉ (changedKeys a b kind.isPod).filterMap partOf?) :
    SameContainer kind a b := by
  intro names
  cases kind with
  | deployment => exact (agree_of_unchanged unchanged).sidecarContainer names
  | pod =>
    have image : image? a = image? b :=
      vendor?_of_unchanged (by decide) (by decide) unchanged
    have policy : imagePullPolicy? a = imagePullPolicy? b :=
      vendor?_of_unchanged (by decide) (by decide) unchanged
    dsimp only
    unfold sidecarContainer
    rw [image, policy]
    cases image? b <;> rfl

/-- **Parts that are left out are as they were**: a container, a port or a configuration that an
update does not make anew comes out the same for the submitted and for the live annotations, and all
of them do where nothing has to be done. -/
theorem skipped_parts (kind : WorkloadKind) (incoming live : TextMap) :
    let scope := UpdateScope.ofChanges (changedKeys incoming live kind.isPod)
    (scope.container = false → SameContainer kind incoming live) ∧
    (scope.service = false → servicePort? incoming = servicePort? live) ∧
    (scope.config = false → configuration incoming = configuration live) ∧
    (needsMutation incoming (some live) kind.isPod = false →
      SameContainer kind incoming live ∧ servicePort? incoming = servicePort? live ∧
        configuration incoming = configuration live) := by
  have service (unchanged : .service ∉ (changedKeys incoming live kind.isPod).filterMap partOf?) :
      servicePort? incoming = servicePort? live :=
    (agree_of_unchanged_of_ne (by decide) unchanged).servicePort?
  have config (unchanged : .config ∉ (changedKeys incoming live kind.isPod).filterMap partOf?) :
      configuration incoming = configuration live :=
    (agree_of_unchanged_of_ne (by decide) unchanged).configuration
  refine ⟨fun unchanged => ?_, fun unchanged => ?_, fun unchanged => ?_, fun unneeded => ?_⟩
  · exact sameContainer_of_unchanged kind (container_notMem unchanged).2
  · exact service (service_notMem unchanged)
  · exact config (config_notMem unchanged)
  · have none_ := notMem_of_not_needsMutation unneeded
    exact ⟨sameContainer_of_unchanged kind (none_ .container), service (none_ .service),
      config (none_ .config)⟩

/-- The settings of a gateway with a port and an environment. -/
def sampleSettings (port language : String) : TextMap :=
  Dict.ofList [(WellKnown.vendorPrefix ++ imageKey, "gateway:24.12"),
    (WellKnown.vendorPrefix ++ servicePortKey, port),
    (WellKnown.vendorPrefix ++ envKey ++ "LANG", language)]

/-- Another port leaves a replicated workload its container and configuration; another language
leaves a pod as it is, although its container would come out with another environment. -/
theorem sampleSettings_skipped :
    (UpdateScope.ofChanges (changedKeys (sampleSettings "30112" "C") (sampleSettings "30113" "C")
      false) = ⟨true, false, false⟩ ∧
      SameContainer .deployment (sampleSettings "30112" "C") (sampleSettings "30113" "C") ∧
      configuration (sampleSettings "30112" "C") = configuration (sampleSettings "30113" "C")) ∧
    (needsMutation (sampleSettings "30112" "C") (some (sampleSettings "30112" "en_US")) true =
        false ∧
      SameContainer .pod (sampleSettings "30112" "C") (sampleSettings "30112" "en_US") ∧
      sidecarEnv (sampleSettings "30112" "C") ≠ sidecarEnv (sampleSettings "30112" "en_US")) := by
  have scope : UpdateScope.ofChanges (changedKeys (sampleSettings "30112" "C")
      (sampleSettings "30113" "C") false) = ⟨true, false, false⟩ := by decide +kernel
  have unneeded : needsMutation (sampleSettings "30112" "C")
      (some (sampleSettings "30112" "en_US")) true = false := by decide +kernel
  have kept := skipped_parts .deployment (sampleSettings "30112" "C") (sampleSettings "30113" "C")
  have left := skipped_parts .pod (sampleSettings "30112" "C") (sampleSettings "30112" "en_US")
  refine ⟨⟨scope, kept.1 ?_, kept.2.2.1 ?_⟩, unneeded, (left.2.2.2 unneeded).1, by decide +kernel⟩
  · exact congrArg UpdateScope.container scope
  · exact congrArg UpdateScope.config scope

end Annotations

end GatewayOperator
