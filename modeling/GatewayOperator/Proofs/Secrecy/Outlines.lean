import GatewayOperator.Cluster
import GatewayOperator.Identity.Client
import GatewayOperator.Proofs.Entries

/-!
# Outlines of secrets

What a secret holds is not for everyone.  Its outline leaves of every entry only whether it is a
text, whether that is empty, and whether anything is left of it without the line ends at its end.

## Main Definitions

* `Text.Outline`, `SecretOutline` — what may be known of a text and of a secret.
* `Secret.Alike` — two secrets of the same outline.
* `Credential.Alike` — two credentials with the same entries and other values.

## Main Statements

* `Secret.Alike.credential` — secrets of the same outline hold credentials with the same entries.
* `Secret.Alike.secretWithClient` — putting the same client into them keeps their outlines the same.
-/

namespace GatewayOperator

/-! ### Dictionaries -/

namespace Assoc

variable {κ α β : Type} [DecidableEq κ]

theorem insert_map [LT κ] [DecidableLT κ] (f : α → β) (key : κ) (value : α)
    (entries : List (κ × α)) :
    insert key (f value) (entries.map fun entry => (entry.1, f entry.2)) =
      (insert key value entries).map fun entry => (entry.1, f entry.2) := by
  induction entries with
  | nil => rfl
  | cons entry rest ih =>
    rw [List.map_cons]
    unfold insert
    split
    · rfl
    · split
      · rfl
      · rw [ih]
        rfl

end Assoc

namespace Dict

variable {κ α β : Type} [LT κ] [DecidableEq κ]

theorem get?_map (f : α → β) (d : Dict κ α) (key : κ) : (d.map f).get? key = (d.get? key).map f :=
  Assoc.lookup_map f key d.entries

theorem insert_map [DecidableLT κ] [KeyOrder κ] (f : α → β) (d : Dict κ α) (key : κ) (value : α) :
    (d.map f).insert key (f value) = (d.insert key value).map f :=
  ext (Assoc.insert_map f key value d.entries)

end Dict

/-! ### Outlines -/

/-- What may be known of a text. -/
structure Text.Outline where
  /-- Whether it is empty. -/
  empty : Bool
  /-- Whether nothing is left of it without the line ends at its end. -/
  emptyLine : Bool
  deriving DecidableEq, Repr

/-- The outline of a text. -/
def Text.outline (text : String) : Text.Outline where
  empty := text.isEmpty
  emptyLine := (Text.trimEndBy (fun c => c = '\n' || c = '\r') text).isEmpty

/-- The outline of a byte string, if it is a text. -/
def Bytes.outline (bytes : Bytes) : Option Text.Outline := bytes.text?.map Text.outline

/-- What may be known of a secret. -/
structure SecretOutline where
  /-- The metadata. -/
  metadata : Metadata
  /-- The outlines of the data entries. -/
  data : Option (Dict String (Option Text.Outline))
  /-- The outlines of the texts that are to become data entries. -/
  stringData : Option (Dict String Text.Outline)
  deriving DecidableEq

/-- The outline of an entry; the bytes of a data entry go before a text. -/
def SecretOutline.value? (outline : SecretOutline) (key : String) : Option Text.Outline :=
  match outline.data.bind (·.get? key) with
  | some known => known
  | none => outline.stringData.bind (·.get? key)

namespace Secret

/-- The outline of a secret. -/
def outline (secret : Secret) : SecretOutline where
  metadata := secret.metadata
  data := secret.data.map (·.map Bytes.outline)
  stringData := secret.stringData.map (·.map Text.outline)

theorem outline_value? (secret : Secret) (key : String) :
    secret.outline.value? key = (secret.value? key).map Text.outline := by
  have data : secret.outline.data.bind (·.get? key) =
      (secret.data.bind (·.get? key)).map Bytes.outline := by
    unfold outline
    cases secret.data with
    | none => rfl
    | some data => exact Dict.get?_map Bytes.outline data key
  have stringData : secret.outline.stringData.bind (·.get? key) =
      (secret.stringData.bind (·.get? key)).map Text.outline := by
    unfold outline
    cases secret.stringData with
    | none => rfl
    | some texts => exact Dict.get?_map Text.outline texts key
  unfold SecretOutline.value? value?
  rw [data, stringData]
  cases secret.data.bind (·.get? key) <;> rfl

/-- Putting the same client into secrets does not tell them apart. -/
theorem outline_secretWithClient (secret : Secret) (client : String × String) :
    (Registration.secretWithClient secret client).outline =
      { secret.outline with
        data := some (((secret.outline.data.getD ∅).insert clientIdKey
          (Bytes.outline (Bytes.ofText client.1))).insert clientSecretKey
            (Bytes.outline (Bytes.ofText client.2))) } := by
  have data : secret.outline.data.getD ∅ = (secret.data.getD ∅).map Bytes.outline := by
    unfold outline
    cases secret.data <;> rfl
  rw [data, Dict.insert_map, Dict.insert_map]
  rfl

/-- Two secrets have the same outline. -/
def Alike (secret secret' : Secret) : Prop := secret.outline = secret'.outline

namespace Alike

variable {secret secret' : Secret}

theorem metadata (alike : secret.Alike secret') : secret.metadata = secret'.metadata :=
  congrArg SecretOutline.metadata alike

/-- Their entries are texts of the same outlines. -/
theorem value? (alike : secret.Alike secret') (key : String) :
    (secret.value? key).map Text.outline = (secret'.value? key).map Text.outline := by
  rw [← outline_value?, ← outline_value?, alike]

theorem secretWithClient (alike : secret.Alike secret') (client : String × String) :
    (Registration.secretWithClient secret client).Alike
      (Registration.secretWithClient secret' client) := by
  unfold Alike
  rw [outline_secretWithClient, outline_secretWithClient, alike]

end Alike

end Secret

/-! ### Credentials -/

namespace Credential

/-- Whether there is an entry can be seen from its outline. -/
theorem isSome_entry? (secret : Secret) (key : String) :
    (Credential.entry? secret key).isSome =
      ((secret.value? key).map Text.outline).any fun outline => !outline.empty := by
  unfold entry?
  cases secret.value? key with
  | none => rfl
  | some text =>
    rw [Option.bind_some, Option.map_some, Option.any_some]
    unfold Text.nonEmpty? Text.outline
    cases text.isEmpty <;> rfl

theorem isSome_trimmedEntry? (secret : Secret) (key : String) :
    (Credential.trimmedEntry? secret key).isSome =
      ((secret.value? key).map Text.outline).any fun outline => !outline.emptyLine := by
  unfold trimmedEntry?
  cases secret.value? key with
  | none => rfl
  | some text =>
    rw [Option.map_some, Option.bind_some, Option.map_some, Option.any_some]
    unfold Text.nonEmpty? Text.outline
    cases (Text.trimEndBy (fun c => c = '\n' || c = '\r') text).isEmpty <;> rfl

/-- Two credentials from secrets of one name that have the same entries. -/
structure Alike (c c' : Credential) : Prop where
  /-- The secrets have the same name. -/
  secretName : c.secretName = c'.secretName
  /-- Both hold a client, or neither does. -/
  registered : c.isRegistered = c'.isRegistered
  /-- Both say who registers, or neither does. -/
  authorized : c.authorization?.isSome = c'.authorization?.isSome
  /-- Both have a name with which a token can be asked for, or neither has. -/
  tokenClientId : c.tokenClientId.isSome = c'.tokenClientId.isSome
  /-- Both have a password with which a token can be asked for, or neither has. -/
  tokenClientSecret : c.tokenClientSecret.isSome = c'.tokenClientSecret.isSome

/-- Whether a credential says who registers depends on which entries there are. -/
theorem isSome_authorization? (c : Credential) :
    c.authorization?.isSome =
      ((c.username.isSome && c.password.isSome) || c.initialAccessToken.isSome) := by
  unfold authorization?
  cases c.username <;> cases c.password <;> simp

end Credential

/-- Secrets of the same outline hold credentials with the same entries. -/
theorem Secret.Alike.credential {secret secret' : Secret} (alike : secret.Alike secret')
    (name : String) :
    (Credential.ofSecret name secret).Alike (Credential.ofSecret name secret') := by
  have entry (key : String) :
      (Credential.entry? secret key).isSome = (Credential.entry? secret' key).isSome := by
    rw [Credential.isSome_entry?, Credential.isSome_entry?, alike.value? key]
  have trimmed (key : String) :
      (Credential.trimmedEntry? secret key).isSome =
        (Credential.trimmedEntry? secret' key).isSome := by
    rw [Credential.isSome_trimmedEntry?, Credential.isSome_trimmedEntry?, alike.value? key]
  exact {
    secretName := rfl
    registered := by simp only [Credential.isRegistered, Credential.ofSecret, entry]
    authorized := by
      simp only [Credential.isSome_authorization?, Credential.ofSecret, entry, trimmed]
    tokenClientId := trimmed _
    tokenClientSecret := trimmed _ }

end GatewayOperator
