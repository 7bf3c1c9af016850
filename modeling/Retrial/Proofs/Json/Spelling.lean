import Mathlib
import Retrial.Json.Reader
import Retrial.Json.Value

/-!
# Spellings of a document

The compact and the pretty text of a document differ only in the blanks between its parts.  What
both have in common is that they *spell* the document (`Spells`): the parts of its text come in the
order of the document, with any blanks between them.  A reader that reads every spelling reads both
texts.

The text of a list or a record is taken from its opening bracket on as what leads to each item, the
item, and in the end the closing bracket.  What leads to the first item are blanks; what leads to a
later one is a comma with blanks around it (`Lead`).
-/

namespace Retrial.Json

open Text (Glyph)

/-! ### Characters as content -/

/-- Content of characters. -/
def chars (cs : List Char) : List Glyph := cs.map Glyph.char

@[simp] lemma chars_nil : chars [] = [] := rfl

@[simp] lemma chars_cons (c : Char) (cs : List Char) : chars (c :: cs) = .char c :: chars cs := rfl

@[simp] lemma chars_append (cs ds : List Char) : chars (cs ++ ds) = chars cs ++ chars ds :=
  List.map_append

@[simp] lemma length_chars (cs : List Char) : (chars cs).length = cs.length := List.length_map _

/-- The characters are blanks between parts of a document. -/
def Blank (bs : List Char) : Prop := ∀ c ∈ bs, isSpace (.char c) = true

lemma blank_nil : Blank [] := fun _ h => nomatch h

/-- A line break with an indentation is blank. -/
lemma blank_newline (depth : Nat) : Blank (newline depth) := by
  intro c hc
  rcases List.mem_cons.mp hc with rfl | hc
  · decide
  · rw [List.eq_of_mem_replicate hc]
    decide

/-- Blanks are skipped. -/
lemma skipSpace_blank {bs : List Char} (h : Blank bs) (s : List Glyph) :
    skipSpace (chars bs ++ s) = skipSpace s := by
  induction bs with
  | nil => rfl
  | cons c bs ih =>
    obtain ⟨hc, hbs⟩ := List.forall_mem_cons.mp h
    rw [chars_cons, List.cons_append, skipSpace, if_pos hc]
    exact ih hbs

/-- Nothing is skipped before a part. -/
lemma skipSpace_cons {g : Glyph} (h : isSpace g = false) (s : List Glyph) :
    skipSpace (g :: s) = g :: s := by
  rw [skipSpace, if_neg (by simp [h])]

/-! ### Spellings -/

/-- The characters lead to the first item of a list or record, or to a later one. -/
def Lead (first : Bool) (cs : List Char) : Prop :=
  if first then Blank cs else ∃ bs bs', Blank bs ∧ Blank bs' ∧ cs = bs ++ ',' :: bs'

mutual

/-- The characters spell a value: its parts with any blanks between them. -/
def Spells : Value → List Char → Prop
  | .null, cs => cs = "null".toList
  | .bool b, cs => cs = (if b then "true" else "false").toList
  | .int n, cs => cs = (toString n).toList
  | .real x, cs => cs = realText x
  | .text s, cs => cs = quoted s
  | .list items, cs => ∃ more, SpellsItems true items more ∧ cs = '[' :: more
  | .record fields, cs => ∃ more, SpellsFields true fields more ∧ cs = '{' :: more

/-- The characters spell the items of a list up to its closing bracket. -/
def SpellsItems : Bool → List Value → List Char → Prop
  | _, [], cs => ∃ bs, Blank bs ∧ cs = bs ++ [']']
  | first, v :: vs, cs => ∃ lead item more, Lead first lead ∧ Spells v item ∧
      SpellsItems false vs more ∧ cs = lead ++ item ++ more

/-- The characters spell the fields of a record up to its closing bracket. -/
def SpellsFields : Bool → List (String × Value) → List Char → Prop
  | _, [], cs => ∃ bs, Blank bs ∧ cs = bs ++ ['}']
  | first, (k, v) :: fs, cs => ∃ lead bs bs' item more, Lead first lead ∧ Blank bs ∧ Blank bs' ∧
      Spells v item ∧ SpellsFields false fs more ∧
      cs = lead ++ quoted k ++ bs ++ ':' :: bs' ++ item ++ more

end

/-! ### The compact text -/

mutual

/-- The compact text spells its value. -/
theorem spells_compact : ∀ v : Value, Spells v v.compact
  | .null => by simp [Spells, Value.compact]
  | .bool b => by simp [Spells, Value.compact]
  | .int n => by simp [Spells, Value.compact]
  | .real x => by simp [Spells, Value.compact]
  | .text s => by simp [Spells, Value.compact]
  | .list [] => by
    unfold Spells
    exact ⟨[']'], by unfold SpellsItems; exact ⟨[], blank_nil, rfl⟩, by rw [Value.compact]⟩
  | .list (v :: vs) => by
    unfold Spells
    refine ⟨v.compact ++ (compactItems vs ++ [']']), ?_, by simp [Value.compact]⟩
    unfold SpellsItems
    exact ⟨[], _, _, blank_nil, spells_compact v, spellsItems_compact vs, rfl⟩
  | .record [] => by
    unfold Spells
    exact ⟨['}'], by unfold SpellsFields; exact ⟨[], blank_nil, rfl⟩, by rw [Value.compact]⟩
  | .record ((k, v) :: fs) => by
    unfold Spells
    refine ⟨quoted k ++ ':' :: v.compact ++ (compactFields fs ++ ['}']), ?_,
      by simp [Value.compact]⟩
    unfold SpellsFields
    exact ⟨[], [], [], _, _, blank_nil, blank_nil, blank_nil, spells_compact v,
      spellsFields_compact fs, by simp⟩

/-- The compact text of further items spells them. -/
theorem spellsItems_compact : ∀ vs : List Value, SpellsItems false vs (compactItems vs ++ [']'])
  | [] => by
    unfold SpellsItems
    exact ⟨[], blank_nil, rfl⟩
  | v :: vs => by
    unfold SpellsItems
    exact ⟨[','], _, _, ⟨[], [], blank_nil, blank_nil, rfl⟩, spells_compact v,
      spellsItems_compact vs, by simp [compactItems]⟩

/-- The compact text of further fields spells them. -/
theorem spellsFields_compact :
    ∀ fs : List (String × Value), SpellsFields false fs (compactFields fs ++ ['}'])
  | [] => by
    unfold SpellsFields
    exact ⟨[], blank_nil, rfl⟩
  | (k, v) :: fs => by
    unfold SpellsFields
    exact ⟨[','], [], [], _, _, ⟨[], [], blank_nil, blank_nil, rfl⟩, blank_nil, blank_nil,
      spells_compact v, spellsFields_compact fs, by simp [compactFields]⟩

end

/-! ### The pretty text -/

mutual

/-- The pretty text spells its value, at any depth. -/
theorem spells_prettyAt : ∀ (depth : Nat) (v : Value), Spells v (v.prettyAt depth)
  | _, .null => by simp [Spells, Value.prettyAt]
  | _, .bool b => by simp [Spells, Value.prettyAt]
  | _, .int n => by simp [Spells, Value.prettyAt]
  | _, .real x => by simp [Spells, Value.prettyAt]
  | _, .text s => by simp [Spells, Value.prettyAt]
  | _, .list [] => by
    unfold Spells
    exact ⟨[']'], by unfold SpellsItems; exact ⟨[], blank_nil, rfl⟩, by rw [Value.prettyAt]⟩
  | depth, .list (v :: vs) => by
    unfold Spells
    refine ⟨newline (depth + 1) ++ v.prettyAt (depth + 1) ++
      (prettyItems (depth + 1) vs ++ (newline depth ++ [']'])), ?_, by simp [Value.prettyAt]⟩
    unfold SpellsItems
    exact ⟨_, _, _, blank_newline _, spells_prettyAt _ v,
      spellsItems_pretty _ (blank_newline depth) vs, rfl⟩
  | _, .record [] => by
    unfold Spells
    exact ⟨['}'], by unfold SpellsFields; exact ⟨[], blank_nil, rfl⟩, by rw [Value.prettyAt]⟩
  | depth, .record ((k, v) :: fs) => by
    unfold Spells
    refine ⟨newline (depth + 1) ++ quoted k ++ ':' :: ' ' :: v.prettyAt (depth + 1) ++
      (prettyFields (depth + 1) fs ++ (newline depth ++ ['}'])), ?_, by simp [Value.prettyAt]⟩
    unfold SpellsFields
    exact ⟨newline (depth + 1), [], [' '], _, _, blank_newline _, blank_nil,
      by simp [Blank, isSpace], spells_prettyAt (depth + 1) v,
      spellsFields_pretty (depth + 1) (blank_newline depth) fs, by simp⟩

/-- The pretty text of further items spells them. -/
theorem spellsItems_pretty (depth : Nat) {bs : List Char} (h : Blank bs) :
    ∀ vs : List Value, SpellsItems false vs (prettyItems depth vs ++ (bs ++ [']']))
  | [] => by
    unfold SpellsItems
    exact ⟨bs, h, rfl⟩
  | v :: vs => by
    unfold SpellsItems
    exact ⟨',' :: newline depth, _, _, ⟨[], _, blank_nil, blank_newline depth, rfl⟩,
      spells_prettyAt depth v, spellsItems_pretty depth h vs, by simp [prettyItems]⟩

/-- The pretty text of further fields spells them. -/
theorem spellsFields_pretty (depth : Nat) {bs : List Char} (h : Blank bs) :
    ∀ fs : List (String × Value), SpellsFields false fs (prettyFields depth fs ++ (bs ++ ['}']))
  | [] => by
    unfold SpellsFields
    exact ⟨bs, h, rfl⟩
  | (k, v) :: fs => by
    unfold SpellsFields
    exact ⟨',' :: newline depth, [], [' '], _, _, ⟨[], _, blank_nil, blank_newline depth, rfl⟩,
      blank_nil, by simp [Blank, isSpace], spells_prettyAt depth v,
      spellsFields_pretty depth h fs, by simp [prettyFields]⟩

end

end Retrial.Json
