import Mathlib.Algebra.GroupWithZero.Nat
import Mathlib.Data.List.TakeDrop
import Mathlib.Tactic.Lemma
import ShipReport.Store.Script

/-!
# Statements at the front of scripts

A statement is read off the front of a script, so that what follows it is shorter. A script that
begins with the words that tables and indexes are made with is not read as any other statement.
-/

namespace ShipReport.Store

/-! ## Lengths -/

/-- A word of a text that is not empty is not empty either. -/
lemma tokenAt_pos {cs : List Char} (h : cs ≠ []) : 0 < (tokenAt cs).2 := by
  unfold tokenAt
  split
  · exact absurd rfl h
  · omega
  · dsimp only
    omega
  · split <;> omega
  · omega
  · split
    · exact Nat.one_pos
    · split
      · dsimp only
        omega
      · split
        · omega
        · exact Nat.one_pos

/-- What follows a word of a text is shorter than the text. -/
lemma length_rest_of_mem_tokensFrom {fuel offset : Nat} {cs : List Char} {t : Token}
    (h : t ∈ tokensFrom fuel offset cs) : t.rest.length < cs.length := by
  induction fuel generalizing offset cs with
  | zero =>
    rw [tokensFrom] at h
    cases h
  | succ fuel ih =>
    cases cs with
    | nil => simp [tokensFrom] at h
    | cons c cs =>
      have pos := tokenAt_pos (List.cons_ne_nil c cs)
      have shorter : ((c :: cs).drop (tokenAt (c :: cs)).2).length < (c :: cs).length := by
        rw [List.length_drop, List.length_cons]
        omega
      have later : ∀ {offset : Nat},
          t ∈ tokensFrom fuel offset ((c :: cs).drop (tokenAt (c :: cs)).2) →
            t.rest.length < (c :: cs).length := fun mem => Nat.lt_trans (ih mem) shorter
      simp only [tokensFrom] at h
      split at h
      · exact later h
      · rcases List.mem_cons.mp h with rfl | h
        · exact shorter
        · exact later h

variable {script rest : List Char} {s : Statement}

/-- The words of a script from its first statement on. -/
def statementTokens (script : List Char) : List Token :=
  (tokens script).dropWhile Token.isEnd

/-- A statement is read from the words up to the next semicolon, and what follows that is the rest
of the script. -/
lemma nextStatement_eq_ok (h : nextStatement script = .ok (some (s, rest))) :
    (∃ unread, Parsing.statement.run ((statementTokens script).takeWhile fun t => !t.isEnd) =
      .ok (s, unread)) ∧
    rest = ((((statementTokens script).dropWhile fun t => !t.isEnd).head?).map (·.rest)).getD [] := by
  unfold nextStatement at h
  split at h
  · cases h
  · rw [List.span_eq_takeWhile_dropWhile] at h
    dsimp only at h
    split at h
    · next read =>
      obtain ⟨rfl, rfl⟩ := Prod.mk.inj (Option.some.inj (Except.ok.inj h))
      exact ⟨⟨_, read⟩, rfl⟩
    · split at h <;> cases h

/-- A statement is read off the front of a script. -/
lemma nextStatement_shorter (h : nextStatement script = .ok (some (s, rest))) :
    rest.length < script.length := by
  have nonempty : script ≠ [] := by
    rintro rfl
    cases h
  obtain ⟨-, rfl⟩ := nextStatement_eq_ok h
  cases next : ((statementTokens script).dropWhile fun t => !t.isEnd).head? with
  | none => exact List.length_pos_iff.mpr nonempty
  | some t =>
    have there := (List.dropWhile_sublist _).mem (List.mem_of_mem_head? next)
    exact length_rest_of_mem_tokensFrom ((List.dropWhile_sublist _).mem there)

/-! ## Definitions -/

/-- Decides whether a text begins with certain words. -/
def beginsWith : List String → List Token → Bool
  | [], _ => true
  | _ :: _, [] => false
  | word :: words, t :: ts => Parsing.isKeyword word t && beginsWith words ts

/-- What a statement begins with that makes a table or an index. -/
def definitionStarts : List (List String) :=
  [["CREATE", "TABLE"], ["CREATE", "TEMP", "TABLE"], ["CREATE", "TEMPORARY", "TABLE"],
    ["CREATE", "INDEX"], ["CREATE", "UNIQUE", "INDEX"]]

/-- The statement at the front of a script makes a table or an index. -/
def Defines (script : List Char) : Prop :=
  ∃ words ∈ definitionStarts, beginsWith words (statementTokens script)

instance (script : List Char) : Decidable (Defines script) :=
  inferInstanceAs (Decidable (∃ words ∈ definitionStarts, beginsWith words _))

/-- The statement is one that makes a table or an index. -/
inductive Statement.IsDefinition : Statement → Prop where
  | table (unlessThere : Bool) (table : Name) (columns : List (Name × Affinity)) :
      IsDefinition (.createTable unlessThere table columns)
  | index (unlessThere : Bool) (index table : Name) (columns : List Name) :
      IsDefinition (.createIndex unlessThere index table columns)

namespace Parsing

variable {α β : Type} {ts unread : List Token}

/-- Reading goes on where the first part of it ended. -/
lemma run_bind_eq_ok {x : Parsing α} {f : α → Parsing β} {b : β} :
    (x >>= f).run ts = .ok (b, unread) ↔
      ∃ a between, x.run ts = .ok (a, between) ∧ (f a).run between = .ok (b, unread) := by
  rw [StateT.run_bind]
  cases x.run ts with
  | error e => exact iff_of_false nofun nofun
  | ok p => exact ⟨fun h => ⟨p.1, p.2, rfl, h⟩, fun ⟨_, _, first, h⟩ => by cases first; exact h⟩

/-- What is read as made is a table or an index. -/
lemma isDefinition_of_creation (h : creation.run ts = .ok (s, unread)) : s.IsDefinition := by
  obtain ⟨isIndex, _, -, h⟩ := run_bind_eq_ok.mp h
  cases isIndex with
  | true =>
    obtain ⟨_, _, -, h⟩ := run_bind_eq_ok.mp h
    obtain ⟨unlessThere, _, -, h⟩ := run_bind_eq_ok.mp h
    obtain ⟨index, _, -, h⟩ := run_bind_eq_ok.mp h
    obtain ⟨_, _, -, h⟩ := run_bind_eq_ok.mp h
    obtain ⟨table, _, -, h⟩ := run_bind_eq_ok.mp h
    obtain ⟨columns, _, -, h⟩ := run_bind_eq_ok.mp h
    cases h
    exact .index unlessThere index table columns
  | false =>
    obtain ⟨_, _, -, h⟩ := run_bind_eq_ok.mp h
    obtain ⟨unlessThere, _, -, h⟩ := run_bind_eq_ok.mp h
    obtain ⟨table, _, -, h⟩ := run_bind_eq_ok.mp h
    obtain ⟨columns, _, -, h⟩ := run_bind_eq_ok.mp h
    cases h
    exact .table unlessThere table columns

/-- A word is not both of two keywords. -/
lemma isKeyword_unique {word other : String} {t : Token} (h : isKeyword word t)
    (differ : Text.eqIgnoringAsciiCase word other = false) : isKeyword other t = false := by
  obtain ⟨kind, same⟩ := Bool.and_eq_true_iff.mp h
  have letters : Text.asciiLowercase t.text = Text.asciiLowercase word := beq_iff_eq.mp same
  unfold isKeyword Text.eqIgnoringAsciiCase
  rw [letters, Bool.and_eq_false_iff]
  exact .inr differ

/-- A statement that begins with CREATE makes a table or an index. -/
lemma isDefinition_of_statement {t : Token} (h : statement.run (t :: ts) = .ok (s, unread))
    (create : isKeyword "CREATE" t) : s.IsDefinition := by
  have other : ∀ word, Text.eqIgnoringAsciiCase "CREATE" word = false →
      isKeyword word t = false := fun _ => isKeyword_unique create
  have start : starts.find? (fun start => isKeyword start.1 t) = some ("CREATE", creation) := by
    simp [starts, List.find?, create, other "INSERT" (by decide), other "DELETE" (by decide),
      other "UPDATE" (by decide)]
  obtain ⟨⟨word, following⟩, _, first, h⟩ := run_bind_eq_ok.mp h
  have taken : (take fun t => starts.find? fun start => isKeyword start.1 t).run (t :: ts) =
      .ok (("CREATE", creation), ts) := by
    unfold take
    dsimp only [StateT.run]
    rw [start]
  cases first.symm.trans taken
  obtain ⟨made, left, read, h⟩ := run_bind_eq_ok.mp h
  obtain ⟨words, _, got, h⟩ := run_bind_eq_ok.mp h
  cases got
  cases left with
  | nil =>
    cases h
    exact isDefinition_of_creation read
  | cons => cases h

end Parsing

/-- Where the words at the front of a script say so, a table or an index is made. -/
lemma isDefinition_of_defines (defines : Defines script)
    (h : nextStatement script = .ok (some (s, rest))) : s.IsDefinition := by
  obtain ⟨⟨unread, read⟩, -⟩ := nextStatement_eq_ok h
  obtain ⟨words, listed, begins⟩ := defines
  have each : ∀ words ∈ definitionStarts, words.head? = some "CREATE" := by decide
  obtain ⟨others, rfl⟩ := List.head?_eq_some_iff.mp (each words listed)
  cases found : statementTokens script with
  | nil =>
    rw [found] at begins
    cases begins
  | cons t ts =>
    rw [found] at begins read
    obtain ⟨create, -⟩ := Bool.and_eq_true_iff.mp begins
    have unended : (!t.isEnd) = true := by
      rw [Token.isEnd, beq_iff_eq.mp (Bool.and_eq_true_iff.mp create).1]
      rfl
    rw [List.takeWhile_cons, if_pos unended] at read
    exact Parsing.isDefinition_of_statement read create

end ShipReport.Store
