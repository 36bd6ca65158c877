import ClassBridge.Proofs.Manifest.Loaded
import ClassBridge.Proofs.Sheet.Rows
import ClassBridge.Text.Blank

/-!
# Code as tokens

`tokens` takes a text apart into words and single marks; blanks only keep words apart.  A text that
is put together reads as its parts do wherever a word cannot go on across the joint
(`tokens_append_of_closed`, `tokens_append_of_open`), and an identifier is a word (`tokens_word`).

What a script writes reads as the texts of the script, one after the other (`Script.tokens_write`):
neither the indentation nor the depth at which it is written matters.
-/

namespace ClassBridge

namespace Code

open Identifier Text

/-- What a reader of code makes out: a word, or a single mark. -/
inductive Token where
  | word (text : String)
  | mark (char : Char)
  deriving DecidableEq, Repr

/-- A word that is finished. -/
def finished (word : List Char) : List Token :=
  if word = [] then [] else [.word (String.ofList word)]

/-- The tokens of a text that goes on behind the beginning of a word. -/
def tokensAfter (word : List Char) : List Char → List Token
  | [] => finished word
  | c :: cs =>
    if isFollower c then tokensAfter (word ++ [c]) cs
    else finished word ++ (if isBlank c then [] else [.mark c]) ++ tokensAfter [] cs

/-- The tokens of a text. -/
def tokens (text : String) : List Token := tokensAfter [] text.toList

/-! ## Joints -/

/-- No word goes on behind the text. -/
def Closed (text : String) : Prop := ∀ c ∈ text.toList.getLast?, isFollower c = false

/-- No word goes on into the text. -/
def Opens (text : String) : Prop := ∀ c ∈ text.toList.head?, isFollower c = false

instance (text : String) : Decidable (Closed text) :=
  decidable_of_iff (text.toList.getLast?.all (fun c => !isFollower c) = true)
    (by simp [Closed, Option.all_eq_true])

instance (text : String) : Decidable (Opens text) :=
  decidable_of_iff (text.toList.head?.all (fun c => !isFollower c) = true)
    (by simp [Opens, Option.all_eq_true])

lemma closed_append (first : String) {second : String} (hne : second.toList ≠ [])
    (h : Closed second) : Closed (first ++ second) := by
  rwa [Closed, String.toList_append, List.getLast?_append_of_ne_nil _ hne]

lemma tokensAfter_of_opens (word : List Char) {cs : List Char}
    (h : ∀ c ∈ cs.head?, isFollower c = false) :
    tokensAfter word cs = finished word ++ tokensAfter [] cs := by
  cases cs with
  | nil => simp [tokensAfter, finished]
  | cons c cs =>
      have hc : isFollower c = false := h c rfl
      simp [tokensAfter, finished, hc]

lemma tokensAfter_append_of_opens (word : List Char) (cs : List Char) {ds : List Char}
    (h : ∀ c ∈ ds.head?, isFollower c = false) :
    tokensAfter word (cs ++ ds) = tokensAfter word cs ++ tokensAfter [] ds := by
  induction cs generalizing word with
  | nil => exact tokensAfter_of_opens word h
  | cons c cs ih =>
      rw [List.cons_append, tokensAfter, tokensAfter]
      split
      · exact ih _
      · simp only [ih, List.append_assoc]

lemma tokensAfter_append_of_closed (word : List Char) {cs : List Char} (ds : List Char)
    (h : ∀ c ∈ cs.getLast?, isFollower c = false) (hne : cs ≠ []) :
    tokensAfter word (cs ++ ds) = tokensAfter word cs ++ tokensAfter [] ds := by
  induction cs generalizing word with
  | nil => exact absurd rfl hne
  | cons c cs ih =>
      by_cases hcs : cs = []
      · subst hcs
        have hc : isFollower c = false := h c rfl
        simp [tokensAfter, finished, hc]
      · have hlast : ∀ d ∈ cs.getLast?, isFollower d = false := by
          rwa [List.getLast?_cons_of_ne_nil hcs] at h
        rw [List.cons_append, tokensAfter, tokensAfter]
        split
        · exact ih _ hlast hcs
        · simp only [ih _ hlast hcs, List.append_assoc]

lemma tokens_append_of_open (first : String) {second : String} (h : Opens second) :
    tokens (first ++ second) = tokens first ++ tokens second := by
  rw [tokens, String.toList_append, tokensAfter_append_of_opens _ _ h]
  rfl

lemma tokens_append_of_closed {first : String} (h : Closed first) (second : String) :
    tokens (first ++ second) = tokens first ++ tokens second := by
  by_cases hne : first.toList = []
  · rw [tokens, tokens, String.toList_append, hne]
    rfl
  · rw [tokens, String.toList_append, tokensAfter_append_of_closed _ _ h hne]
    rfl

/-! ## Words and blanks -/

lemma tokensAfter_followers (word : List Char) {cs : List Char}
    (h : ∀ c ∈ cs, isFollower c = true) : tokensAfter word cs = finished (word ++ cs) := by
  induction cs generalizing word with
  | nil => rw [tokensAfter, List.append_nil]
  | cons c cs ih =>
      rw [List.forall_mem_cons] at h
      rw [tokensAfter, if_pos h.1, ih _ h.2, List.append_assoc, List.singleton_append]

/-- An identifier is a word. -/
theorem tokens_word {name : String} (h : WellFormed name) : tokens name = [.word name] := by
  rw [tokens, tokensAfter_followers [] fun c hc => isFollower_of_mem h hc, List.nil_append,
    finished, if_neg (toList_ne_nil h), String.ofList_toList]

lemma isFollower_eq_false_of_isBlank {c : Char} (h : isBlank c = true) : isFollower c = false := by
  rw [Bool.eq_false_iff]
  intro hfollower
  change ((((decide (c.val ≥ 65 ∧ c.val ≤ 90) || (decide (c.val ≥ 97) && decide (c.val ≤ 122))) ||
    (decide (c.val ≥ 48) && decide (c.val ≤ 57))) || c == '_') = true) at hfollower
  simp only [Bool.or_eq_true, Bool.and_eq_true, decide_eq_true_eq, beq_iff_eq,
    UInt32.le_iff_toNat_le, ge_iff_le] at hfollower
  change ((((65 ≤ c.toNat ∧ c.toNat ≤ 90) ∨ (97 ≤ c.toNat ∧ c.toNat ≤ 122)) ∨
    (48 ≤ c.toNat ∧ c.toNat ≤ 57)) ∨ c = '_') at hfollower
  simp only [isBlank, Bool.or_eq_true, Bool.and_eq_true, decide_eq_true_eq, beq_iff_eq] at h
  rcases hfollower with hascii | rfl
  · omega
  · revert h
    decide

lemma tokensAfter_blanks {cs : List Char} (ds : List Char) (h : ∀ c ∈ cs, isBlank c = true) :
    tokensAfter [] (cs ++ ds) = tokensAfter [] ds := by
  induction cs with
  | nil => rfl
  | cons c cs ih =>
      rw [List.forall_mem_cons] at h
      rw [List.cons_append, tokensAfter, isFollower_eq_false_of_isBlank h.1]
      simpa [finished, h.1] using ih h.2

/-- Blanks before a text are passed over. -/
lemma tokens_blanks_append {blanks : String} (h : isBlankText blanks = true) (text : String) :
    tokens (blanks ++ text) = tokens text := by
  rw [tokens, String.toList_append]
  exact tokensAfter_blanks _ (List.all_eq_true.mp h)

lemma tokens_of_isBlankText {text : String} (h : isBlankText text = true) : tokens text = [] := by
  have htext := tokens_blanks_append h ""
  rwa [String.append_empty] at htext

/-- Rows are read one after the other. -/
lemma tokens_closeRows (rows : List String) : tokens (closeRows rows) = rows.flatMap tokens := by
  induction rows with
  | nil => rfl
  | cons row rows ih =>
      have hclosed : Closed (row ++ "\n") := by
        simp [Closed]
        decide
      have hfeed : Opens "\n" := by decide
      have hblank : tokens "\n" = [] := by decide
      rw [closeRows, tokens_append_of_closed hclosed, tokens_append_of_open _ hfeed, hblank,
        List.append_nil, ih, List.flatMap_cons]

end Code

/-! ## Scripts -/

namespace Script

open Code Text

/-- The tokens of the texts of a script. -/
def tokens : Script → List Token
  | .seq first second => first.tokens ++ second.tokens
  | .line text => Code.tokens text
  | .lines fragment => (fragmentLines fragment).flatMap Code.tokens
  | .comment text => Code.tokens ("// " ++ text)
  | .block header close body => Code.tokens header ++ body.tokens ++ Code.tokens close
  | .whenever condition body => if condition then body.tokens else []
  | .iteration bodies => bodies.tokens
  | _ => []

lemma isBlankText_pad (indent : Indent) (depth : Nat) : isBlankText (indent.pad depth) = true := by
  have hunit : isBlankText indent.unit = true := by cases indent <;> decide
  induction depth with
  | zero => rfl
  | succ depth ih =>
      rw [Indent.pad, isBlankText, String.toList_append, List.all_append, Bool.and_eq_true]
      exact ⟨hunit, ih⟩

lemma tokens_padded (indent : Indent) (depth : Nat) (text : String) :
    Code.tokens (indent.pad depth ++ text) = Code.tokens text :=
  tokens_blanks_append (isBlankText_pad indent depth) text

lemma tokens_pastedRow (indent : Indent) (depth : Nat) (text : String) :
    Code.tokens (pastedRow indent depth text) = Code.tokens text := by
  unfold pastedRow
  split
  · rename_i hblank
    rw [tokens_of_isBlankText hblank]
    rfl
  · exact tokens_padded indent depth text

lemma tokens_rows (script : Script) (indent : Indent) (depth : Nat) :
    (script.rows indent depth).flatMap Code.tokens = script.tokens := by
  induction script generalizing depth with
  | skip => rfl
  | seq first second ih₁ ih₂ => rw [rows, List.flatMap_append, ih₁, ih₂, tokens]
  | line text => rw [rows, List.flatMap_singleton, tokens_padded, tokens]
  | lines fragment =>
      rw [rows, List.flatMap_map, tokens]
      exact List.flatMap_congr fun text _ => tokens_pastedRow indent depth text
  | comment text => rw [rows, List.flatMap_singleton, tokens_padded, tokens]
  | blank => rfl
  | deeper => rfl
  | shallower => rfl
  | block header close body ih =>
      rw [rows, List.flatMap_cons, List.flatMap_append, List.flatMap_singleton, tokens_padded,
        tokens_padded, ih, tokens, List.append_assoc]
  | whenever condition body ih =>
      cases condition with
      | false => rfl
      | true => exact ih depth
  | iteration bodies ih => exact ih depth

/-- What a script writes reads as its texts. -/
theorem tokens_write (script : Script) (indent : Indent) :
    Code.tokens (script.write indent) = script.tokens := by
  rw [write_eq, tokens_closeRows, tokens_rows]

lemma tokens_all (scripts : List Script) : (all scripts).tokens = scripts.flatMap tokens := by
  induction scripts with
  | nil => rfl
  | cons script scripts ih => rw [List.flatMap_cons, ← ih]; rfl

end Script

end ClassBridge
