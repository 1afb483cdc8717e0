/-
Module: StingerFx.Lib.FlatJson
Layer: Lib
Purpose: Texts of flat JSON objects, and where a quoted key is found in them. Keys
  and values hold no structural character, so the first occurrence of a quoted key
  is the key of its own entry, or there is none.
Trusted boundary: none (fully proved)
Main exports: FlatValue, dumps, Plain, findText, findText_dumps,
  takeWhile_append_of_stop, dropWhile_append_of_stop
-/
import Mathlib

namespace Lib

/-- The double quote. -/
def quoteMark : Char := Char.ofNat 34

def openBrace : Char := Char.ofNat 123

def closeBrace : Char := Char.ofNat 125

/-- A value that needs no escaping. -/
inductive FlatValue where
  | text (chars : List Char)
  | number (chars : List Char)
deriving Repr, DecidableEq

namespace FlatValue

def chars : FlatValue → List Char
  | .text chars => chars
  | .number chars => chars

def dumps : FlatValue → List Char
  | .text chars => quoteMark :: chars ++ [quoteMark]
  | .number chars => chars

end FlatValue

def quoted (chars : List Char) : List Char := quoteMark :: chars ++ [quoteMark]

def dumpsEntry (entry : List Char × FlatValue) : List Char :=
  quoted entry.1 ++ ':' :: ' ' :: entry.2.dumps

def dumpsEntries : List (List Char × FlatValue) → List Char
  | [] => [closeBrace]
  | [entry] => dumpsEntry entry ++ [closeBrace]
  | entry :: next :: rest =>
      dumpsEntry entry ++ ',' :: ' ' :: dumpsEntries (next :: rest)

/-- The text of a flat object. -/
def dumps (entries : List (List Char × FlatValue)) : List Char :=
  openBrace :: dumpsEntries entries

/-- Characters without a meaning of their own in the text of an object. -/
def Plain (chars : List Char) : Prop :=
  ∀ c ∈ chars, c ≠ quoteMark ∧ c ≠ ',' ∧ c ≠ ':' ∧ c ≠ closeBrace ∧ c ≠ ' '

instance (chars : List Char) : Decidable (Plain chars) :=
  List.decidableBAll _ chars

/-- The text from the first occurrence of a needle on. -/
def findText (needle : List Char) : List Char → Option (List Char)
  | [] => if needle.isPrefixOf [] then some [] else none
  | c :: rest =>
      if needle.isPrefixOf (c :: rest) then some (c :: rest)
      else findText needle rest

/-! ### Taking and dropping up to a character -/

section Scanning

variable {α : Type} {p : α → Bool} {front back : List α}

theorem takeWhile_append_of_stop (all : ∀ a ∈ front, p a = true)
    (stops : ∀ a, back.head? = some a → p a = false) :
    (front ++ back).takeWhile p = front := by
  induction front with
  | nil =>
      cases back with
      | nil => rfl
      | cons a rest => simp [stops a rfl]
  | cons a front ih =>
      have first := all a List.mem_cons_self
      simp [first, ih fun b member => all b (List.mem_cons_of_mem _ member)]

theorem dropWhile_append_of_stop (all : ∀ a ∈ front, p a = true)
    (stops : ∀ a, back.head? = some a → p a = false) :
    (front ++ back).dropWhile p = back := by
  induction front with
  | nil =>
      cases back with
      | nil => rfl
      | cons a rest => simp [stops a rfl]
  | cons a front ih =>
      have first := all a List.mem_cons_self
      simp [first, ih fun b member => all b (List.mem_cons_of_mem _ member)]

end Scanning

/-! ### Where a quoted key occurs -/

variable {key : List Char}

theorem Plain.not_mem {chars : List Char} (plain : Plain chars) :
    quoteMark ∉ chars :=
  fun member => (plain quoteMark member).1 rfl

/-- Up to the closing quote, a prefix is the whole token. -/
theorem eq_of_prefix_quoted {chars after : List Char} (inKey : quoteMark ∉ key)
    (inChars : quoteMark ∉ chars)
    (matched : (key ++ [quoteMark]) <+: (chars ++ quoteMark :: after)) :
    key = chars := by
  induction key generalizing chars with
  | nil =>
      cases chars with
      | nil => rfl
      | cons c chars =>
          have first := (List.cons_prefix_cons.mp matched).1
          exact absurd (first ▸ List.mem_cons_self) inChars
  | cons k key ih =>
      cases chars with
      | nil =>
          have first := (List.cons_prefix_cons.mp matched).1
          exact absurd (first ▸ List.mem_cons_self) inKey
      | cons c chars =>
          rcases List.cons_prefix_cons.mp matched with ⟨rfl, rest⟩
          rw [ih (fun member => inKey (List.mem_cons_of_mem _ member))
            (fun member => inChars (List.mem_cons_of_mem _ member)) rest]

theorem findText_of_prefix {needle body : List Char} (matched : needle <+: body) :
    findText needle body = some body := by
  cases body with
  | nil =>
      have empty := List.prefix_nil.mp matched
      simp [findText, empty]
  | cons c rest => simp [findText, List.isPrefixOf_iff_prefix.mpr matched]

theorem findText_cons_of_not_prefix {needle rest : List Char} {c : Char}
    (unmatched : ¬ needle <+: (c :: rest)) :
    findText needle (c :: rest) = findText needle rest := by
  have no : needle.isPrefixOf (c :: rest) = false := by
    rw [← Bool.not_eq_true]
    exact fun yes => unmatched (List.isPrefixOf_iff_prefix.mp yes)
  simp [findText, no]

/-- No quote, no match. -/
theorem findText_skip {chars : List Char} (plain : quoteMark ∉ chars)
    (rest : List Char) :
    findText (quoted key) (chars ++ rest) = findText (quoted key) rest := by
  induction chars with
  | nil => rfl
  | cons c chars ih =>
      rw [List.cons_append, findText_cons_of_not_prefix]
      · exact ih fun member => plain (List.mem_cons_of_mem _ member)
      · intro matched
        have first := (List.cons_prefix_cons.mp matched).1
        exact plain (first ▸ List.mem_cons_self)

/-- A quoted token that is not the key: neither of its quotes begins a match. -/
theorem findText_quoted {chars : List Char} {c : Char} {after : List Char}
    (plainKey : Plain key) (filled : key ≠ []) (plain : Plain chars)
    (other : key ≠ chars) (structural : ¬ Plain [c]) :
    findText (quoted key) (quoted chars ++ c :: after) =
      findText (quoted key) (c :: after) := by
  have opening : ¬ quoted key <+: quoteMark :: (chars ++ quoteMark :: c :: after) := by
    intro matched
    exact other (eq_of_prefix_quoted plainKey.not_mem plain.not_mem
      (List.cons_prefix_cons.mp matched).2)
  have closing : ¬ quoted key <+: quoteMark :: c :: after := by
    intro matched
    have rest := (List.cons_prefix_cons.mp matched).2
    cases key with
    | nil => exact filled rfl
    | cons k key =>
        have same := (List.cons_prefix_cons.mp rest).1
        apply structural
        intro d member
        rw [List.mem_singleton.mp member, ← same]
        exact plainKey k List.mem_cons_self
  have shape : quoted chars ++ c :: after =
      quoteMark :: (chars ++ quoteMark :: c :: after) := by
    simp [quoted]
  rw [shape, findText_cons_of_not_prefix opening, findText_skip plain.not_mem,
    findText_cons_of_not_prefix closing]

/-- A value that is not the key as a text holds no match. -/
theorem findText_value {value : FlatValue} {c : Char} {after : List Char}
    (plainKey : Plain key) (filled : key ≠ []) (plain : Plain value.chars)
    (other : value ≠ .text key) (structural : ¬ Plain [c]) :
    findText (quoted key) (value.dumps ++ c :: after) =
      findText (quoted key) (c :: after) := by
  cases value with
  | number chars => exact findText_skip plain.not_mem _
  | text chars =>
      apply findText_quoted plainKey filled plain _ structural
      intro same
      exact other (congrArg FlatValue.text same.symm)

/-- An entry with another key holds no match. -/
theorem findText_entry {entry : List Char × FlatValue} {c : Char}
    {after : List Char} (plainKey : Plain key) (filled : key ≠ [])
    (plain : Plain entry.1 ∧ Plain entry.2.chars) (otherKey : entry.1 ≠ key)
    (otherValue : entry.2 ≠ .text key) (structural : ¬ Plain [c]) :
    findText (quoted key) (dumpsEntry entry ++ c :: after) =
      findText (quoted key) (c :: after) := by
  have shape : dumpsEntry entry ++ c :: after =
      quoted entry.1 ++ ':' :: ([' '] ++ (entry.2.dumps ++ c :: after)) := by
    simp [dumpsEntry]
  have colon : ¬ Plain [':'] := by decide
  have space : quoteMark ∉ [':', ' '] := by decide
  rw [shape, findText_quoted plainKey filled plain.1 otherKey.symm colon,
    ← List.cons_append]
  exact (findText_skip space _).trans
    (findText_value plainKey filled plain.2 otherValue structural)

/-- The search for a key ends at its own entry, with the text that follows, or finds
nothing. -/
theorem findText_dumps (entries : List (List Char × FlatValue))
    (plainKey : Plain key) (filled : key ≠ [])
    (plain : ∀ entry ∈ entries, Plain entry.1 ∧ Plain entry.2.chars)
    (others : ∀ entry ∈ entries, entry.2 ≠ .text key) :
    match entries.lookup key with
    | none => findText (quoted key) (dumps entries) = none
    | some value => ∃ c after, (c = ',' ∨ c = closeBrace) ∧
        findText (quoted key) (dumps entries) =
          some (dumpsEntry (key, value) ++ c :: after) := by
  have atStart : findText (quoted key) (dumps entries) =
      findText (quoted key) (dumpsEntries entries) :=
    @findText_skip key [openBrace] (by decide) _
  rw [atStart]
  have last : findText (quoted key) [closeBrace] = none := by
    have skipped := @findText_skip key [closeBrace] (by decide) []
    rw [List.append_nil] at skipped
    rw [skipped]
    simp [findText, quoted]
  induction entries with
  | nil => exact last
  | cons entry rest ih =>
      have firstPlain := plain entry List.mem_cons_self
      have firstOther := others entry List.mem_cons_self
      have brace : ¬ Plain [closeBrace] := by decide
      have comma : ¬ Plain [','] := by decide
      by_cases same : entry.1 = key
      · have found : (entry :: rest).lookup key = some entry.2 := by
          rw [List.lookup_cons, same, BEq.rfl]
        rw [found]
        have known : (key, entry.2) = entry := by rw [← same]
        dsimp only
        rw [known]
        have begins : ∀ after : List Char, quoted key <+: dumpsEntry entry ++ after := by
          intro after
          rw [← same, dumpsEntry, List.append_assoc]
          exact List.prefix_append _ _
        cases rest with
        | nil =>
            exact ⟨closeBrace, [], .inr rfl, findText_of_prefix (begins _)⟩
        | cons next rest =>
            exact ⟨',', ' ' :: dumpsEntries (next :: rest), .inl rfl,
              findText_of_prefix (begins _)⟩
      · have skipped : (entry :: rest).lookup key = rest.lookup key := by
          have different : (key == entry.1) = false := by
            simpa using fun eq : key = entry.1 => same eq.symm
          rw [List.lookup_cons, different]
        rw [skipped]
        cases rest with
        | nil =>
            exact (findText_entry plainKey filled firstPlain same firstOther
              brace).trans last
        | cons next rest =>
            have moved : findText (quoted key) (dumpsEntries (entry :: next :: rest)) =
                findText (quoted key) (dumpsEntries (next :: rest)) := by
              have space : quoteMark ∉ [',', ' '] := by decide
              exact (findText_entry plainKey filled firstPlain same firstOther
                comma).trans (findText_skip space _)
            rw [moved]
            exact ih (fun other member => plain other (List.mem_cons_of_mem _ member))
              (fun other member => others other (List.mem_cons_of_mem _ member))
              (@findText_skip key [openBrace] (by decide) _)

end Lib
