import Mathlib.Logic.Relation
import FormatService.Json.Printer
import FormatService.Json.Reader

/-!
# Texts that spell a value

A reader takes one token after the other off a text. A text spells a value if the reader, wherever
it waits for a value, comes to have that value behind the text. The texts that are written for
strings spell these strings: every escape is undone.
-/

set_option autoImplicit false

namespace FormatService.Json

open Relation (ReflTransGen)

/-- One token is taken off the text. -/
inductive Takes : State × List Char → State × List Char → Prop
  | token {s s' : State} {c : Char} {t rest : List Char} {token : Token}
    (solid : Text.isBlank c = false) (scanned : scanToken (c :: t) = .ok (token, rest))
    (shorter : rest.length ≤ t.length) (stepped : s.step ⟨token, t.length + 1⟩ = .ok s') :
    Takes (s, c :: t) (s', rest)

theorem lexFrom_token {c : Char} {t rest : List Char} {token : Token} {n : Nat}
    (solid : Text.isBlank c = false) (scanned : scanToken (c :: t) = .ok (token, rest)) :
    lexFrom (n + 1) (c :: t) = (lexFrom n rest).cons ⟨token, t.length + 1⟩ := by
  have slash : c ≠ '/' := by
    rintro rfl
    simp [scanToken] at scanned
  rw [lexFrom, solid, scanned]
  · rfl
  · rintro t' rfl
    exact absurd rfl slash
  · rintro t' rfl
    exact absurd rfl slash

theorem run_lexFrom {s s' : State} {text : List Char} {n : Nat} (enough : text.length ≤ n)
    (taken : ReflTransGen Takes (s, text) (s', [])) :
    (lexFrom n text).fault = none ∧ s.run (lexFrom n text).items = .ok s' := by
  generalize begun : (s, text) = front at taken
  induction taken using ReflTransGen.head_induction_on generalizing s text n with
  | refl =>
    cases begun
    cases n <;> exact ⟨rfl, rfl⟩
  | head first _ ih =>
    cases first with
    | token solid scanned shorter stepped =>
      cases begun
      cases n with
      | zero => cases enough
      | succ n =>
        have tail := ih (Nat.le_trans shorter (Nat.le_of_succ_le_succ enough)) rfl
        rw [lexFrom_token solid scanned]
        exact ⟨tail.1, by simpa [Lexemes.cons, State.run, stepped] using tail.2⟩

theorem read_of_takes {text : List Char} {v : Value}
    (taken : ReflTransGen Takes (.start, text) (.done v, [])) : read text = .ok (some v) := by
  obtain ⟨sound, reached⟩ := run_lexFrom (Nat.le_refl text.length) taken
  simp [read, lex, bind, Except.bind, sound, reached, State.finish]

/-- The states in which a value may begin, with what is open there. -/
inductive Awaits : State → List Frame → Prop
  | start : Awaits .start []
  | member {left : Nat} {members : List (String × Value)} {name : String} {outer : List Frame} :
    Awaits (.inside (.object left members (.value name)) outer)
      (.object left members (.value name) :: outer)

theorem Awaits.step {s : State} {outer : List Frame} (awaits : Awaits s outer) (lexeme : Lexeme) :
    s.step lexeme = State.beginValue outer lexeme := by
  cases awaits <;> rfl

/-- A word ends here, so that it may be a keyword. -/
def Ends (rest : List Char) : Prop := rest.head?.any Text.isAlphanumeric = false

theorem ends_comma (rest : List Char) : Ends (',' :: rest) := by
  have comma : Text.isAlphanumeric ',' = false := by decide +kernel
  rw [Ends, List.head?_cons, Option.any_some, comma]

theorem ends_brace (rest : List Char) : Ends ('\x7d' :: rest) := by
  have brace : Text.isAlphanumeric '\x7d' = false := by decide +kernel
  rw [Ends, List.head?_cons, Option.any_some, brace]

def Spells (text : List Char) (v : Value) : Prop :=
  ∀ s outer rest, Awaits s outer → Ends rest →
    ReflTransGen Takes (s, text ++ rest) (State.complete v outer, rest)

theorem Spells.read {text : List Char} {v : Value} (spells : Spells text v) :
    Json.read text = .ok (some v) := by
  have taken := spells .start [] [] .start rfl
  rw [List.append_nil] at taken
  exact read_of_takes taken

section Strings

variable {start : Nat} {rest : List Char}

theorem hexDigit_hexChar {n : Nat} (small : n < 16) :
    isHex (hexChar n) = true ∧ hexDigit (hexChar n) = n := by
  have all : ∀ n < 16, isHex (hexChar n) = true ∧ hexDigit (hexChar n) = n := by decide
  exact all n small

theorem character?_toNat (c : Char) : character? c.toNat = some c := by
  have valid : c.toNat.isValidChar := c.valid
  rw [character?, dif_pos valid]
  rfl

theorem scanString_escapeChar (c : Char) : scanString '"' start (escapeChar c ++ rest) =
    (scanString '"' start rest).map fun (s, r) => (c :: s, r) := by
  unfold escapeChar
  split
  · subst_vars; rfl
  split
  · subst_vars; rfl
  split
  · subst_vars; rfl
  split
  · subst_vars; rfl
  split
  · subst_vars; rfl
  split
  · subst_vars; rfl
  split
  · subst_vars; rfl
  split
  next control =>
    obtain ⟨high, tens⟩ := hexDigit_hexChar (n := c.toNat / 16) (by omega)
    obtain ⟨low, ones⟩ := hexDigit_hexChar (n := c.toNat % 16) (by omega)
    have value : hexValue ['0', '0', hexChar (c.toNat / 16), hexChar (c.toNat % 16)] = c.toNat := by
      have zero : hexDigit '0' = 0 := rfl
      simp only [hexValue, List.foldl_cons, List.foldl_nil, zero, tens, ones]
      omega
    have digit : isHex '0' = true := rfl
    simp only [List.cons_append, List.nil_append]
    rw [scanString]
    simp only [digit, high, low, value, character?_toNat, Bool.and_self, if_true]
  next quote backslash _ _ _ _ _ _ =>
    rw [List.singleton_append, scanString]
    · rw [if_neg quote]
    all_goals simp [backslash]

theorem scanString_escaped (t : Text) :
    scanString '"' start (t.flatMap escapeChar ++ '"' :: rest) = .ok (t, rest) := by
  induction t with
  | nil => rfl
  | cons c t ih =>
    rw [List.flatMap_cons, List.append_assoc, scanString_escapeChar, ih]
    rfl

theorem scanToken_printString (t : Text) :
    scanToken (printString t ++ rest) = .ok (.string t, rest) := by
  have opened : printString t ++ rest = '"' :: (t.flatMap escapeChar ++ '"' :: rest) := by
    simp [printString]
  rw [opened, scanToken]
  simp [scanString_escaped, Except.map]

end Strings

theorem takes_string {s s' : State} {t : Text} {rest : List Char}
    (stepped : ∀ left, s.step ⟨.string t, left⟩ = .ok s') :
    Takes (s, printString t ++ rest) (s', rest) := by
  have scanned : scanToken (printString t ++ rest) = .ok (.string t, rest) :=
    scanToken_printString t
  have opened : printString t ++ rest = '"' :: (t.flatMap escapeChar ++ '"' :: rest) := by
    simp [printString]
  rw [opened] at scanned ⊢
  refine .token (by decide) scanned ?_ (stepped _)
  simp only [List.length_append, List.length_cons]
  omega

theorem spells_string (s : String) : Spells (printString s.toList) (.string s) := by
  intro st outer rest awaits _
  refine .single (takes_string fun left => ?_)
  simp [awaits.step, State.beginValue]

theorem keyword?_append {rest : List Char} (ends : Ends rest) (keyword : List Char) :
    keyword? keyword (keyword ++ rest) = some rest := by
  have ends : rest.head?.any Text.isAlphanumeric = false := ends
  simp [keyword?, ends]

theorem spells_boolean (b : Bool) :
    Spells (if b then "true".toList else "false".toList) (.boolean b) := by
  intro s outer rest awaits ends
  have step {left : Nat} := awaits.step ⟨.boolean b, left⟩
  cases b with
  | true =>
    have scanned : scanToken ("true".toList ++ rest) = .ok (.boolean true, rest) := by
      change scanKeywordOrWord ("true".toList ++ rest) = _
      rw [scanKeywordOrWord, keyword?_append ends]
    exact .single (.token (by decide) scanned (by simp; omega) step)
  | false =>
    have scanned : scanToken ("false".toList ++ rest) = .ok (.boolean false, rest) := by
      change scanKeywordOrWord ("false".toList ++ rest) = _
      rw [scanKeywordOrWord, keyword?_append ends]
      rfl
    exact .single (.token (by decide) scanned (by simp; omega) step)

end FormatService.Json
