import BidSystem.Telemetry.Redaction
import Mathlib.Data.Int.Notation

/-!
# Redaction of nested payloads

`redact_value`, `redact_mapping` and the response facade over it.  What is under
a sensitive key is replaced as a whole, whatever it is; everything else is kept
in its place, with its texts redacted.

* `AgreeMembers` — two payloads that differ only under sensitive keys.
* `KeepsMembers` — what redaction leaves of a payload.
-/

namespace BidSystem.Telemetry

open Regex

/-- `ScalarValue` without `str`; a `float` is the bits of a double. -/
inductive Scalar where
  | int (value : ℤ)
  | float (value : UInt64)
  | bool (value : Bool)
  | null
deriving DecidableEq

/-- `RedactableValue`. -/
inductive RedactableValue where
  | str (value : String)
  | scalar (value : Scalar)
  | mapping (members : List (String × RedactableValue))
  | sequence (items : List RedactableValue)

/-- `SENSITIVE_KEY_PATTERN.search`. -/
def searchSensitiveKey (key : String) : Bool :=
  key.toList.tails.any fun rest => (sensitiveKeyPattern.first? rest).isSome

mutual

/-- `redact_value`. -/
def redactValue : RedactableValue → RedactableValue
  | .str value => .str (redactText value)
  | .mapping members => .mapping (redactMapping members)
  | .sequence items => .sequence (redactItems items)
  | .scalar value => .scalar value

/-- `redact_mapping`. -/
def redactMapping : List (String × RedactableValue) → List (String × RedactableValue)
  | [] => []
  | (key, item) :: members =>
      (key, if searchSensitiveKey key then .str (String.ofList redacted) else redactValue item) ::
        redactMapping members

/-- The comprehension over a sequence in `redact_value`. -/
def redactItems : List RedactableValue → List RedactableValue
  | [] => []
  | item :: items => redactValue item :: redactItems items

end

/-- `redact_response`. -/
def redactResponse (members : List (String × RedactableValue)) : List (String × RedactableValue) :=
  redactMapping members

/-! ## Two payloads -/

mutual

/-- Two values that differ only under sensitive keys. -/
def Agree : RedactableValue → RedactableValue → Prop
  | .str value, .str other => value = other
  | .scalar value, .scalar other => value = other
  | .mapping members, .mapping others => AgreeMembers members others
  | .sequence items, .sequence others => AgreeItems items others
  | _, _ => False

/-- Two mappings with the same keys that differ only under sensitive ones. -/
def AgreeMembers :
    List (String × RedactableValue) → List (String × RedactableValue) → Prop
  | [], [] => True
  | (key, item) :: members, (key', item') :: others =>
      key = key' ∧ (searchSensitiveKey key = true ∨ Agree item item') ∧
        AgreeMembers members others
  | _, _ => False

/-- Two sequences of the same length that differ only under sensitive keys. -/
def AgreeItems : List RedactableValue → List RedactableValue → Prop
  | [], [] => True
  | item :: items, item' :: others => Agree item item' ∧ AgreeItems items others
  | _, _ => False

end

mutual

/-- Redaction does not see the difference. -/
theorem redactValue_eq :
    ∀ value other : RedactableValue, Agree value other → redactValue value = redactValue other
  | .str value, .str other, agree => by rw [show value = other from agree]
  | .scalar value, .scalar other, agree => by rw [show value = other from agree]
  | .mapping members, .mapping others, agree => by
      rw [redactValue, redactValue, redactMapping_eq members others agree]
  | .sequence items, .sequence others, agree => by
      rw [redactValue, redactValue, redactItems_eq items others agree]

theorem redactMapping_eq :
    ∀ members others : List (String × RedactableValue), AgreeMembers members others →
      redactMapping members = redactMapping others
  | [], [], _ => rfl
  | (key, item) :: members, (key', item') :: others, agree => by
      obtain ⟨rfl, hidden, rest⟩ := agree
      rw [redactMapping, redactMapping, redactMapping_eq members others rest]
      rcases hidden with sensitive | same
      · rw [if_pos sensitive, if_pos sensitive]
      · rw [redactValue_eq item item' same]

theorem redactItems_eq :
    ∀ items others : List RedactableValue, AgreeItems items others →
      redactItems items = redactItems others
  | [], [], _ => rfl
  | item :: items, item' :: others, agree => by
      rw [redactItems, redactItems, redactValue_eq item item' agree.1,
        redactItems_eq items others agree.2]

end

/-! ## What redaction leaves -/

mutual

/-- The second value is the first one with texts and sensitive values replaced. -/
def Keeps : RedactableValue → RedactableValue → Prop
  | .str _, .str _ => True
  | .scalar value, .scalar other => value = other
  | .mapping members, .mapping others => KeepsMembers members others
  | .sequence items, .sequence others => KeepsItems items others
  | _, _ => False

/-- The same keys in the same order. -/
def KeepsMembers :
    List (String × RedactableValue) → List (String × RedactableValue) → Prop
  | [], [] => True
  | (key, item) :: members, (key', item') :: others =>
      key' = key ∧ (searchSensitiveKey key = true ∨ Keeps item item') ∧
        KeepsMembers members others
  | _, _ => False

/-- As many items in the same order. -/
def KeepsItems : List RedactableValue → List RedactableValue → Prop
  | [], [] => True
  | item :: items, item' :: others => Keeps item item' ∧ KeepsItems items others
  | _, _ => False

end

mutual

theorem keeps_redactValue : ∀ value : RedactableValue, Keeps value (redactValue value)
  | .str _ => trivial
  | .scalar _ => rfl
  | .mapping members => keeps_redactMapping members
  | .sequence items => keeps_redactItems items

theorem keeps_redactMapping :
    ∀ members : List (String × RedactableValue), KeepsMembers members (redactMapping members)
  | [] => trivial
  | (key, item) :: members => by
      refine ⟨rfl, ?_, keeps_redactMapping members⟩
      cases sensitive : searchSensitiveKey key with
      | true => exact .inl rfl
      | false => exact .inr (keeps_redactValue item)

theorem keeps_redactItems :
    ∀ items : List RedactableValue, KeepsItems items (redactItems items)
  | [] => trivial
  | item :: items => ⟨keeps_redactValue item, keeps_redactItems items⟩

end

/-- **Structured redaction**: the result does not depend on anything under a
sensitive key, and has all keys, lengths and scalars of the payload elsewhere. -/
theorem redactMapping_noninterference :
    (∀ members others, AgreeMembers members others →
      redactMapping members = redactMapping others ∧
        redactResponse members = redactResponse others) ∧
    ∀ members, KeepsMembers members (redactMapping members) ∧
      (redactMapping members).map Prod.fst = members.map Prod.fst := by
  refine ⟨fun members others agree => ⟨redactMapping_eq members others agree,
    redactMapping_eq members others agree⟩, fun members => ⟨keeps_redactMapping members, ?_⟩⟩
  induction members with
  | nil => rfl
  | cons member members ih =>
      rw [redactMapping, List.map_cons, List.map_cons, ih]

/-- A text and a mapping under a nested `password` cannot be told apart. -/
theorem redactMapping_noninterference_password :
    redactMapping
        [("form", .mapping [("user", .str "ada"), ("password", .str "correct horse")])] =
      redactMapping
        [("form", .mapping [("user", .str "ada"), ("password", .scalar .null)])] := by
  refine (redactMapping_noninterference.1 _ _ ?_).1
  have sensitive : searchSensitiveKey "password" = true := by decide
  simp [AgreeMembers, Agree, sensitive]

end BidSystem.Telemetry
