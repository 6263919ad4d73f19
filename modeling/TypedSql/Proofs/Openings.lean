import TypedSql.Proofs.Skeleton
/-!
# How statements begin

The text of a rendered statement begins with one of a few words, whatever the dialect and whether
its values are bound or written into it. So it is told apart from all other text by its beginning,
from the commands that begin and end transactions in particular.

## Main definitions

- `statementOpenings`: the words.
- `Fragment.OpensWith`: the first piece of a fragment is text that begins with a word.

## Main statements

- `StatementOf.exists_opening`: a statement opens with one of the words.
- `StatementOf.exists_opening_compile`: and so does its text.
-/

namespace TypedSql

/-- The words that the text of a statement can begin with; that of a chain of limited selections
begins with a parenthesis. -/
def statementOpenings : List String :=
  ["SELECT ", "(", "INSERT INTO ", "UPDATE ", "DELETE ", "TRUNCATE TABLE "]

namespace Fragment

/-- The first piece is text that begins with the word. -/
def OpensWith (word : String) (f : Fragment) : Prop :=
  ∃ text rest, f = .text (word ++ text) :: rest

variable {word : String} {f : Fragment}

theorem opensWith_ofText (word text : String) : (ofText (word ++ text)).OpensWith word :=
  ⟨text, [], rfl⟩

theorem OpensWith.append (h : f.OpensWith word) (g : Fragment) : (f ++ g).OpensWith word := by
  obtain ⟨text, rest, rfl⟩ := h
  exact ⟨text, rest ++ g, rfl⟩

theorem opensWith_parenthesised (f : Fragment) : f.parenthesised.OpensWith "(" :=
  ⟨"", f ++ ofText ")", by simp [parenthesised, ofText]⟩

theorem OpensWith.exists_boundSql (h : f.OpensWith word) (d : Dialect) :
    ∃ rest, f.boundSql d = word ++ rest := by
  obtain ⟨text, rest, rfl⟩ := h
  exact ⟨text ++ boundSqlFrom d.placeholderStyle 0 rest, String.append_assoc ..⟩

theorem OpensWith.exists_inlineSql (h : f.OpensWith word) (d : Dialect) :
    ∃ rest, f.inlineSql d = word ++ rest := by
  obtain ⟨text, rest, rfl⟩ := h
  exact ⟨text ++ inlineSql d rest, String.append_assoc ..⟩

end Fragment

section Shapes

variable (d : Dialect) (qualified : Bool)

theorem SelectBody.opensWith_render (b : SelectBody RenderedCondition) :
    (b.render d qualified).OpensWith "SELECT " := by
  have hopening : ∃ text, b.opening d = "SELECT " ++ text := ⟨_, String.append_assoc ..⟩
  obtain ⟨text, htext⟩ := hopening
  simp only [render, htext]
  exact ((((((Fragment.opensWith_ofText "SELECT " text).append _).append _).append _).append
    _).append _).append _

theorem SelectBody.opensWith_renderInChain (b : SelectBody RenderedCondition) :
    (b.renderInChain d qualified).OpensWith "SELECT " ∨
      (b.renderInChain d qualified).OpensWith "(" := by
  cases d with
  | sqlServer => exact .inl (b.opensWith_render .sqlServer qualified)
  | postgres =>
    cases htop : b.top? with
    | none =>
      simp only [renderInChain, htop]
      exact .inl (b.opensWith_render .postgres qualified)
    | some n =>
      simp only [renderInChain, htop]
      exact .inr (Fragment.opensWith_parenthesised _)

theorem SelectOf.opensWith_render (outerQualified : Bool) (s : SelectOf RenderedCondition) :
    (s.render d outerQualified).OpensWith "SELECT " ∨
      (s.render d outerQualified).OpensWith "(" := by
  have hparts (qualified : Bool) : (s.renderParts d qualified).OpensWith "SELECT " ∨
      (s.renderParts d qualified).OpensWith "(" := by
    unfold renderParts
    split
    · exact .inl (s.head.opensWith_render d qualified)
    · exact (s.head.opensWith_renderInChain d qualified).imp (·.append _) (·.append _)
  exact (hparts _).imp (fun h => (h.append _).append _) fun h => (h.append _).append _

theorem InsertTemplate.opensWith_render (s : InsertTemplate) :
    (s.render d).OpensWith "INSERT INTO " := by
  have htarget : ∃ text, s.target d = "INSERT INTO " ++ text := by
    simp only [target, String.append_assoc]
    exact ⟨_, rfl⟩
  obtain ⟨text, htext⟩ := htarget
  cases d <;> simp only [render, htext] <;>
    exact ((Fragment.opensWith_ofText "INSERT INTO " text).append _).append _

theorem UpdateOf.opensWith_render (s : UpdateOf RenderedCondition) :
    (s.render d).OpensWith "UPDATE " := by
  have htarget (qualified : Bool) : ∃ text, s.target d qualified = "UPDATE " ++ text := by
    cases d <;> exact ⟨_, rfl⟩
  obtain ⟨text, htext⟩ := htarget (s.usesAliases RenderedCondition.hasSubquery)
  cases d <;> simp only [render, htext] <;>
    exact ((((Fragment.opensWith_ofText "UPDATE " text).append _).append _).append _).append _

theorem DeleteOf.opensWith_render (s : DeleteOf RenderedCondition) :
    (s.render d).OpensWith "DELETE " := by
  have htarget (qualified : Bool) : ∃ text, s.target d qualified = "DELETE " ++ text := by
    cases d with
    | sqlServer => exact ⟨_, rfl⟩
    | postgres => exact ⟨"FROM " ++ Dialect.postgres.tableReference qualified s.table, rfl⟩
  obtain ⟨text, htext⟩ := htarget (s.usesAliases RenderedCondition.hasSubquery)
  have hopens := Fragment.opensWith_ofText "DELETE " text
  cases d with
  | sqlServer =>
    simp only [render, htext]
    exact (((hopens.append _).append _).append _).append _
  | postgres =>
    simp only [render, htext]
    exact ((hopens.append _).append _).append _

theorem StatementOf.opensWith_renderShape (outerQualified : Bool)
    (s : StatementOf RenderedCondition) :
    ∃ word ∈ statementOpenings, (s.renderShape d outerQualified).OpensWith word := by
  cases s with
  | select s =>
    obtain h | h := s.opensWith_render d outerQualified
    · exact ⟨"SELECT ", by simp [statementOpenings], h⟩
    · exact ⟨"(", by simp [statementOpenings], h⟩
  | insert s => exact ⟨"INSERT INTO ", by simp [statementOpenings], s.opensWith_render d⟩
  | update s => exact ⟨"UPDATE ", by simp [statementOpenings], s.opensWith_render d⟩
  | delete s => exact ⟨"DELETE ", by simp [statementOpenings], s.opensWith_render d⟩
  | truncate table =>
    exact ⟨"TRUNCATE TABLE ", by simp [statementOpenings], Fragment.opensWith_ofText _ _⟩

end Shapes

/-- The text of a statement begins with one of the words, in both dialects and modes. -/
theorem StatementOf.exists_opening_compile (s : Statement) (d : Dialect) (mode : ParameterMode) :
    ∃ word ∈ statementOpenings, ∃ rest, (s.compile d mode).sql = word ++ rest := by
  obtain ⟨word, hword, hopens⟩ := (s.map (Condition.rendered d)).opensWith_renderShape d false
  refine ⟨word, hword, ?_⟩
  cases mode with
  | bind =>
    rw [compile_bind]
    exact hopens.exists_boundSql d
  | inline =>
    rw [compile_inline]
    exact hopens.exists_inlineSql d

end TypedSql
