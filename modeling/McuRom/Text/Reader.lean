import Mathlib.Logic.Basic

namespace McuRom
namespace Text

/-!
# Reading back a text

A reader recognises something at the front of a text and leaves the rest.
That it reads a text as a value is stated for every continuation of the text,
so that readers compose exactly as the texts do: what is printed piece by
piece is read back piece by piece.
-/

variable {α β γ : Type}

/-- The value recognised, and the text behind it. -/
def Reader (α : Type) : Type := List Char → Option (α × List Char)

namespace Reader

def pure (value : α) : Reader α := fun text => some (value, text)

def bind (reader : Reader α) (next : α → Reader β) : Reader β := fun text =>
  (reader text).bind fun taken => next taken.1 taken.2

instance : Monad Reader where
  pure := pure
  bind := bind

/-- Recognise a text as a value, whatever comes behind it. -/
def Reads (reader : Reader α) (text : List Char) (value : α) : Prop :=
  ∀ rest, reader (text ++ rest) = some (value, rest)

theorem reads_pure (value : α) : (Pure.pure value : Reader α).Reads [] value :=
  fun _ => rfl

theorem Reads.bind {reader : Reader α} {next : α → Reader β} {first second : List Char} {value : α}
    {result : β} (reads : reader.Reads first value) (onwards : (next value).Reads second result) :
    (reader >>= next).Reads (first ++ second) result := by
  intro rest
  change (reader (first ++ second ++ rest)).bind _ = _
  rw [List.append_assoc, reads, Option.bind_some]
  exact onwards rest

/-- A reader that consumes the last piece. -/
theorem Reads.last {reader : Reader α} {next : α → β} {text : List Char} {value : α}
    (reads : reader.Reads text value) :
    (reader >>= fun value => Pure.pure (next value)).Reads text (next value) := by
  have whole : (reader >>= fun value => Pure.pure (next value)).Reads (text ++ []) (next value) :=
    reads.bind (reads_pure (next value))
  rwa [List.append_nil] at whole

/-! ## Fixed texts -/

/-- Recognise one fixed text. -/
def literal : List Char → Reader Unit
  | [], text => some ((), text)
  | _ :: _, [] => none
  | expected :: more, c :: rest => if c = expected then literal more rest else none

theorem reads_literal (expected : List Char) : (literal expected).Reads expected () := by
  intro rest
  induction expected with
  | nil => rfl
  | cons c more ih =>
      rw [List.cons_append, literal, if_pos rfl]
      exact ih

/-- The texts have different characters in some place. -/
def differ : List Char → List Char → Bool
  | first :: more, second :: others => first ≠ second || differ more others
  | _, _ => false

theorem literal_of_differ {expected text : List Char} (different : differ expected text = true)
    (rest : List Char) : literal expected (text ++ rest) = none := by
  induction expected generalizing text with
  | nil => cases different
  | cons c more ih =>
      cases text with
      | nil => cases different
      | cons d others =>
          rw [List.cons_append, literal]
          by_cases same : d = c
          · subst same
            rw [if_pos rfl]
            apply ih
            simpa [differ] using different
          · rw [if_neg same]

/-- Recognise one of several fixed texts. -/
def oneOf : List (List Char × α) → Reader α
  | [], _ => none
  | (expected, value) :: others, text =>
    match literal expected text with
    | some ((), rest) => some (value, rest)
    | none => oneOf others text

theorem reads_oneOf {entries : List (List Char × α)}
    (apart : entries.Pairwise fun first second => differ first.1 second.1 = true)
    {text : List Char} {value : α} (listed : (text, value) ∈ entries) :
    (oneOf entries).Reads text value := by
  intro rest
  induction entries with
  | nil => cases listed
  | cons entry others ih =>
      rcases entry with ⟨expected, other⟩
      rcases List.pairwise_cons.mp apart with ⟨fromFirst, among⟩
      rw [oneOf]
      rcases List.mem_cons.mp listed with first | later
      · cases first
        rw [reads_literal text rest]
      · rw [literal_of_differ (fromFirst _ later) rest]
        exact ih among later

end Reader

end Text
end McuRom
