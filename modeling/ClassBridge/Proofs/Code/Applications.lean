import ClassBridge.Proofs.Code.Findings
import Mathlib.Data.List.Forall2

/-!
# Where given functions are applied

A reader who knows the names of some functions finds each place where one of them is applied: the
name stands alone, and a parenthesis opens behind it.  A name behind a dot or a colon belongs to
something else, and one behind the keyword of a definition is defined there.  Of an application
`applications` keeps the name and all that follows the parenthesis.

`Applies` says which of the functions are applied in some tokens, and to what, whatever surrounds
the tokens.  It goes through tokens part by part (`Applies.append`).  In tokens that none of the
names is among nothing is applied (`applies_of_not_mem`), so it does not matter what is pasted
there.

Arguments are the texts between the parentheses.  A reader who counts them by their commas finds as
many, if none of the texts has a comma of its own outside further parentheses
(`counts_of_forall₂`).
-/

namespace ClassBridge.Code

/-- A name with the tokens behind the parenthesis that it is followed by. -/
abbrev Application : Type := String × List Token

/-- Whether a name behind this token stands alone. -/
def standsAlone (previous : Option Token) : Bool :=
  previous != some (.mark '.') && previous != some (.mark ':') && previous != some (.word "fn")

/-- The application that begins at the first of some tokens, behind another token. -/
def applicationAt? (names : List String) (previous : Option Token) :
    List Token → Option Application
  | .word name :: .mark c :: rest =>
    if c = '(' ∧ standsAlone previous = true ∧ name ∈ names then some (name, rest) else none
  | _ => none

/-- The applications in tokens, behind another token. -/
def applicationsFrom (names : List String) (previous : Option Token) :
    List Token → List Application
  | [] => []
  | token :: rest =>
    (applicationAt? names previous (token :: rest)).toList
      ++ applicationsFrom names (some token) rest

/-- The applications of some functions in a text. -/
def applications (names : List String) (text : String) : List Application :=
  applicationsFrom names none (tokens text)

/-- The tokens of arguments, up to the parenthesis that closes. -/
def argumentTokens (arguments : List String) : List Token :=
  [.mark ','].intercalate (arguments.map tokens) ++ [.mark ')']

/-- A function and the texts of its arguments, as they are written where it is applied. -/
def AppliedTo (use : String × List String) (found : Application) : Prop :=
  found.1 = use.1 ∧ argumentTokens use.2 <+: found.2

/-- In these tokens these functions are applied to these arguments, whatever surrounds them. -/
def Applies (names : List String) (ts : List Token) (uses : List (String × List String)) : Prop :=
  ∀ previous us, ∃ found, applicationsFrom names previous (ts ++ us)
      = found ++ applicationsFrom names (ts.getLast?.or previous) us
    ∧ List.Forall₂ AppliedTo uses found

/-- How many underscores there are in a word. -/
def Token.underscores : Token → Nat
  | .word text => text.toList.count '_'
  | .mark _ => 0

variable {names : List String} {ts us : List Token} {uses uses' : List (String × List String)}

lemma applicationAt?_mark (previous : Option Token) (c : Char) (ts : List Token) :
    applicationAt? names previous (.mark c :: ts) = none := rfl

/-- Nothing is applied at a token before a word. -/
lemma applicationAt?_before_word (previous : Option Token) (before : Token) (name : String)
    (ts : List Token) : applicationAt? names previous (before :: .word name :: ts) = none := by
  cases before <;> rfl

lemma applicationAt?_of_not_mem (previous : Option Token) {name : String} (h : name ∉ names)
    (ts : List Token) : applicationAt? names previous (.word name :: ts) = none := by
  cases ts with
  | nil => rfl
  | cons token ts =>
      cases token with
      | word name' => rfl
      | mark c => exact if_neg fun hmem => h hmem.2.2

lemma getLast?_or_cons (token : Token) (ts : List Token) (previous : Option Token) :
    (token :: ts).getLast?.or previous = ts.getLast?.or (some token) := by
  cases ts with
  | nil => rfl
  | cons token' ts =>
      rw [List.getLast?_cons_cons, List.getLast?_cons, Option.some_or, Option.some_or]

namespace Applies

lemma nil : Applies names [] [] := fun _ _ => ⟨[], rfl, .nil⟩

theorem append (h : Applies names ts uses) (h' : Applies names us uses') :
    Applies names (ts ++ us) (uses ++ uses') := by
  intro previous vs
  obtain ⟨found, heq, hfound⟩ := h previous (us ++ vs)
  obtain ⟨found', heq', hfound'⟩ := h' (ts.getLast?.or previous) vs
  refine ⟨found ++ found', ?_, List.rel_append hfound hfound'⟩
  rw [List.append_assoc, heq, heq', List.append_assoc, List.getLast?_append, Option.or_assoc]

/-- What is applied in a text. -/
theorem forall₂ {text : String} (h : Applies names (tokens text) uses) :
    List.Forall₂ AppliedTo uses (applications names text) := by
  obtain ⟨found, heq, hfound⟩ := h none []
  rw [List.append_nil, applicationsFrom, List.append_nil] at heq
  rwa [applications, heq]

end Applies

/-- Where none of the names occurs nothing is applied. -/
theorem applies_of_not_mem (h : ∀ name, .word name ∈ ts → name ∉ names) : Applies names ts [] := by
  induction ts with
  | nil => exact .nil
  | cons token ts ih =>
      intro previous us
      obtain ⟨found, heq, hfound⟩ := ih (fun name hname => h name (List.mem_cons_of_mem _ hname))
        (some token) us
      have hnone : applicationAt? names previous (token :: (ts ++ us)) = none := by
        cases token with
        | mark c => rfl
        | word name => exact applicationAt?_of_not_mem previous (h name List.mem_cons_self) _
      refine ⟨found, ?_, hfound⟩
      rw [List.cons_append, applicationsFrom, hnone, heq, getLast?_or_cons]
      rfl

/-- Names with many underscores do not occur among words with few. -/
lemma applies_of_underscores (hnames : ∀ name ∈ names, 2 ≤ name.toList.count '_')
    (h : ∀ token ∈ ts, token.underscores < 2) : Applies names ts [] := by
  refine applies_of_not_mem fun name hname hmem => ?_
  have hfew : name.toList.count '_' < 2 := h _ hname
  have hmany := hnames name hmem
  omega

/-- A name that does not stand alone is not applied. -/
lemma applies_dependent {before : Token} (hbefore : standsAlone (some before) = false)
    (name : String) (c : Char) (h : Applies names ts uses) :
    Applies names (before :: .word name :: .mark c :: ts) uses := by
  intro previous us
  obtain ⟨found, heq, hfound⟩ := h (some (.mark c)) us
  have hnone : applicationAt? names (some before) (.word name :: .mark c :: (ts ++ us)) = none :=
    if_neg fun happlied => Bool.noConfusion (hbefore.symm.trans happlied.2.1)
  refine ⟨found, ?_, hfound⟩
  simp only [List.cons_append, applicationsFrom, applicationAt?_before_word, applicationAt?_mark,
    hnone, heq, getLast?_or_cons, Option.toList_none, List.nil_append]

/-- A function is applied. -/
lemma applies_call {before : Token} (hbefore : standsAlone (some before) = true) {name : String}
    (hname : name ∈ names) {arguments : List String} (harguments : argumentTokens arguments <+: ts)
    (h : Applies names ts uses) :
    Applies names (before :: .word name :: .mark '(' :: ts) ((name, arguments) :: uses) := by
  intro previous us
  obtain ⟨found, heq, hfound⟩ := h (some (.mark '(')) us
  have hsome : applicationAt? names (some before) (.word name :: .mark '(' :: (ts ++ us))
      = some (name, ts ++ us) := if_pos ⟨rfl, hbefore, hname⟩
  have happlied : AppliedTo (name, arguments) (name, ts ++ us) :=
    ⟨rfl, harguments.trans (List.prefix_append ts us)⟩
  refine ⟨(name, ts ++ us) :: found, ?_, .cons happlied hfound⟩
  simp only [List.cons_append, applicationsFrom, applicationAt?_before_word, applicationAt?_mark,
    hsome, heq, getLast?_or_cons, Option.toList_none, Option.toList_some, List.nil_append]

/-! ## Counting arguments -/

/-- No comma of the text separates it from others, and no parenthesis of it ends them. -/
def KeepsCommas (text : String) : Prop := ∀ rest, commas 0 (tokens text ++ rest) = commas 0 rest

lemma argumentTokens_singleton (argument : String) :
    argumentTokens [argument] = tokens argument ++ [.mark ')'] := by
  simp [argumentTokens]

lemma argumentTokens_cons_cons (first second : String) (others : List String) :
    argumentTokens (first :: second :: others)
      = tokens first ++ .mark ',' :: argumentTokens (second :: others) := by
  simp [argumentTokens]

/-- The commas between arguments. -/
lemma commas_argumentTokens {first : String} {others : List String}
    (h : ∀ argument ∈ first :: others, KeepsCommas argument) (rest : List Token) :
    commas 0 (argumentTokens (first :: others) ++ rest) = others.length := by
  induction others generalizing first with
  | nil =>
      rw [argumentTokens_singleton, List.append_assoc, h first List.mem_cons_self]
      rfl
  | cons second others ih =>
      rw [argumentTokens_cons_cons, List.append_assoc, h first List.mem_cons_self,
        List.length_cons, ← ih fun argument hmem => h argument (List.mem_cons_of_mem _ hmem)]
      rfl

/-- A text that keeps its commas does not begin with the parenthesis that closes. -/
lemma KeepsCommas.head?_ne {text : String} (h : KeepsCommas text) :
    (tokens text).head? ≠ some (.mark ')') := by
  intro hhead
  obtain ⟨ts, htokens⟩ := List.head?_eq_some_iff.mp hhead
  have hcomma := h [.mark ',']
  rw [htokens] at hcomma
  exact Nat.zero_ne_one hcomma

/-- There are as many arguments as are written. -/
theorem argumentCount_of_prefix {arguments : List String}
    (h : ∀ argument ∈ arguments, tokens argument ≠ [] ∧ KeepsCommas argument) {rest : List Token}
    (hbegins : argumentTokens arguments <+: rest) : argumentCount rest = arguments.length := by
  obtain ⟨after, rfl⟩ := hbegins
  cases arguments with
  | nil => rfl
  | cons first others =>
      obtain ⟨hne, hkeeps⟩ := h first List.mem_cons_self
      have hhead : (argumentTokens (first :: others) ++ after).head? = (tokens first).head? := by
        cases others with
        | nil =>
            rw [argumentTokens_singleton, List.append_assoc, List.head?_append_of_ne_nil _ hne]
        | cons second others =>
            rw [argumentTokens_cons_cons, List.append_assoc, List.head?_append_of_ne_nil _ hne]
      rw [argumentCount, if_neg (by rw [hhead]; exact hkeeps.head?_ne),
        commas_argumentTokens fun argument hmem => (h argument hmem).2]
      rfl

/-- Where arguments keep their commas a reader counts as many as are written. -/
theorem counts_of_forall₂ {found : List Application} (h : List.Forall₂ AppliedTo uses found)
    (harguments : ∀ use ∈ uses, ∀ argument ∈ use.2, tokens argument ≠ [] ∧ KeepsCommas argument) :
    (found.map fun a => (⟨a.1, argumentCount a.2⟩ : Call))
      = uses.map fun use => ⟨use.1, use.2.length⟩ := by
  induction h with
  | nil => rfl
  | cons happlied _ ih =>
      rw [List.forall_mem_cons] at harguments
      rw [List.map_cons, List.map_cons, ih harguments.2, happlied.1,
        argumentCount_of_prefix harguments.1 happlied.2]

/-- Neither a definition nor a method of something else is an application. -/
example : (applications ["ffi_Url_size"]
    "fn ffi_Url_size(n) \x7b ffi_Url_size(self, list.ffi_Url_size()) \x7d").map
      (fun a => (a.1, argumentCount a.2)) = [("ffi_Url_size", 2)] := by decide +kernel

end ClassBridge.Code
