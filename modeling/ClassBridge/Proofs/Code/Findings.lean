import ClassBridge.Proofs.Code.Tokens

/-!
# What is found in code

A reader of code goes through its tokens and notes three things: a name applied to arguments in
parentheses, a path of two names, and the head of an implementation of a trait.  A name behind a dot
or behind the keyword of a definition is not applied.

What is found at a token depends on what follows it, so `Reads` says what is found in tokens
whatever surrounds them.  It goes through tokens part by part (`Reads.append`).
-/

namespace ClassBridge.Code

/-- A function applied to so many arguments. -/
structure Call where
  callee : String
  arguments : Nat
  deriving DecidableEq, Repr

/-- What a reader notes. -/
inductive Finding where
  | call (call : Call)
  /-- Two names with a double colon between them. -/
  | path (first second : String)
  /-- The head of an implementation. -/
  | implements (trait type : String)
  deriving DecidableEq, Repr

/-- How many commas there are up to the parenthesis that closes, not counting those in further
parentheses. -/
def commas (depth : Nat) : List Token → Nat
  | .mark c :: rest =>
    if c = '(' then commas (depth + 1) rest
    else if c = ')' then (if depth = 0 then 0 else commas (depth - 1) rest)
    else if c = ',' ∧ depth = 0 then commas depth rest + 1
    else commas depth rest
  | .word _ :: rest => commas depth rest
  | [] => 0

/-- How many arguments there are behind an opening parenthesis. -/
def argumentCount (rest : List Token) : Nat :=
  if rest.head? = some (.mark ')') then 0 else commas 0 rest + 1

/-- What begins at the first of some tokens, behind another token. -/
def findingAt? (previous : Option Token) : List Token → Option Finding
  | .word name :: .mark c :: rest =>
    if c = '(' then
      if previous = some (.mark '.') ∨ previous = some (.word "fn") then none
      else some (.call ⟨name, argumentCount rest⟩)
    else if c = ':' then
      match rest with
      | .mark d :: .word second :: _ => if d = ':' then some (.path name second) else none
      | _ => none
    else none
  | .word first :: .word trait :: .word second :: .word type :: _ =>
    if first = "impl" ∧ second = "for" then some (.implements trait type) else none
  | _ => none

/-- All that is found in tokens, behind another token. -/
def findingsFrom (previous : Option Token) : List Token → List Finding
  | [] => []
  | token :: rest =>
    (findingAt? previous (token :: rest)).toList ++ findingsFrom (some token) rest

/-- All that is found in a text. -/
def findings (text : String) : List Finding := findingsFrom none (tokens text)

namespace Finding

/-- The call, if it is one. -/
def call? : Finding → Option Call
  | .call found => some found
  | _ => none

/-- The trait and the type of an implementation, if it is one. -/
def implementation? : Finding → Option (String × String)
  | .implements trait type => some (trait, type)
  | _ => none

/-- The two names, if it is a path. -/
def path? : Finding → Option (String × String)
  | .path first second => some (first, second)
  | _ => none

lemma mem_filterMap_path? {found : List Finding} {first second : String} :
    (first, second) ∈ found.filterMap path? ↔ .path first second ∈ found := by
  rw [List.mem_filterMap]
  constructor
  · rintro ⟨finding, hmem, hpath⟩
    cases finding with
    | path => cases hpath; exact hmem
    | _ => cases hpath
  · exact fun hmem => ⟨_, hmem, rfl⟩

end Finding

/-- The calls in a text. -/
def calls (text : String) : List Call := (findings text).filterMap Finding.call?

/-- The traits that a text implements, each with the type that it is implemented for. -/
def implementations (text : String) : List (String × String) :=
  (findings text).filterMap Finding.implementation?

/-- Whether two names stand in a text with a double colon between them. -/
def Mentions (text first second : String) : Prop := .path first second ∈ findings text

instance (text first second : String) : Decidable (Mentions text first second) :=
  inferInstanceAs (Decidable (_ ∈ _))

/-- The lines stand in the text, one after the other, however the text is laid out. -/
def Contains (text : String) (lines : List String) : Prop :=
  lines.flatMap tokens <:+: tokens text

lemma infix_flatMap {α β : Type} {a : α} {items : List α} (h : a ∈ items) (f : α → List β) :
    f a <:+: items.flatMap f := by
  obtain ⟨before, after, rfl⟩ := List.append_of_mem h
  exact ⟨before.flatMap f, after.flatMap f, by simp⟩

lemma path_mem_findingsFrom (first second : String) (previous : Option Token)
    (before after : List Token) :
    .path first second ∈ findingsFrom previous
      (before ++ .word first :: .mark ':' :: .mark ':' :: .word second :: after) := by
  induction before generalizing previous with
  | nil =>
      rw [List.nil_append, findingsFrom]
      exact List.mem_append_left _ List.mem_cons_self
  | cons token before ih =>
      rw [List.cons_append, findingsFrom]
      exact List.mem_append_right _ (ih (some token))

/-- A path in one of the lines is a path in the text. -/
lemma Contains.mentions {text : String} {lines : List String} (h : Contains text lines)
    {line first second : String} (hline : line ∈ lines)
    (hpath : [.word first, .mark ':', .mark ':', .word second] <:+: tokens line) :
    Mentions text first second := by
  obtain ⟨before, after, htokens⟩ := (hpath.trans (infix_flatMap hline tokens)).trans h
  rw [Mentions, findings, ← htokens, List.append_assoc]
  exact path_mem_findingsFrom first second none before after

/-- This is found in some tokens, whatever surrounds them. -/
def Reads (ts : List Token) (found : List Finding) : Prop :=
  ∀ previous us, findingsFrom previous (ts ++ us)
    = found ++ findingsFrom (ts.getLast?.or previous) us

namespace Reads

lemma nil : Reads [] [] := fun _ _ => rfl

theorem append {ts us : List Token} {found found' : List Finding} (h : Reads ts found)
    (h' : Reads us found') : Reads (ts ++ us) (found ++ found') := by
  intro previous vs
  rw [List.append_assoc, h, h', List.append_assoc, List.getLast?_append, Option.or_assoc]

theorem findings_eq {text : String} {found : List Finding} (h : Reads (tokens text) found) :
    findings text = found := by
  have hall := h none []
  rw [List.append_nil] at hall
  rw [findings, hall, findingsFrom, List.append_nil]

end Reads

end ClassBridge.Code
