import TenantGrid.Proofs.Sql.Placeholders
import TenantGrid.Proofs.Text.Quoted
/-!
# Quoted texts of a statement

Identifiers and the literals of texts, ids and timestamps stand in quotes. Whatever they hold, a reader
that knows no more of SQL than its quotes takes each of them for one quoted text, and nothing else of a
statement for one.
-/
namespace TenantGrid.Sql

/-- What such a reader makes of a text: characters outside quotes, and texts in quotes. -/
inductive Lexeme where
  | char (c : Char)
  | quoted (quote : Char) (text : String)
  deriving DecidableEq

/-- The lexemes of a text, or nothing if a quote is left open. -/
def lexemes? : List Char → Option (List Lexeme)
  | [] => some []
  | c :: rest =>
    if isQuote c then
      match h : Text.readQuoted? c (c :: rest) with
      | some (s, after) =>
        have := Text.length_of_readQuoted? h
        (lexemes? after).map (.quoted c s :: ·)
      | none => none
    else (lexemes? rest).map (.char c :: ·)
termination_by text => text.length
decreasing_by
  · exact this
  · exact Nat.lt_succ_self rest.length

private theorem lexemes?_cons_of_isQuote {quote : Char} (hquote : isQuote quote = true)
    {text after : List Char} {s : String}
    (h : Text.readQuoted? quote (quote :: text) = some (s, after)) :
    lexemes? (quote :: text) = (lexemes? after).map (.quoted quote s :: ·) := by
  rw [lexemes?, if_pos hquote]
  split
  · rename_i hread
    cases h.symm.trans hread
    rfl
  · rename_i hread
    cases h.symm.trans hread

private theorem lexemes?_quoted {quote : Char} (hquote : isQuote quote = true) (s : String)
    {rest : List Char} (hrest : rest.head? ≠ some quote) :
    lexemes? ((Text.quoted quote s).toList ++ rest) = (lexemes? rest).map (.quoted quote s :: ·) := by
  have hread : Text.readQuoted? quote ((Text.quoted quote s).toList ++ rest) = some (s, rest) :=
    Text.readQuoted?_eq_some.mpr ⟨rfl, hrest⟩
  rw [Text.toList_quoted, List.cons_append] at hread ⊢
  exact lexemes?_cons_of_isQuote hquote hread

private theorem lexemes?_plain {text : List Char} (h : ∀ c ∈ text, isQuote c = false)
    (rest : List Char) : lexemes? (text ++ rest) = (lexemes? rest).map (text.map .char ++ ·) := by
  induction text with
  | nil => simp
  | cons c text ih =>
    obtain ⟨hc, htext⟩ := List.forall_mem_cons.mp h
    rw [List.cons_append, lexemes?, if_neg (by simp [hc]), ih htext, Option.map_map]
    rfl

private theorem isQuote_of_isPlain {c : Char} (h : isPlain c = true) : isQuote c = false := by
  simp only [isPlain, Bool.and_eq_true, Bool.not_eq_true'] at h
  exact h.1.1

namespace Token

/-- What the text of a token is read as. -/
def lexemes (dialect : Dialect) (t : Token) : List Lexeme :=
  match t.quoted? with
  | some (quote, s) => [.quoted quote s]
  | none => (t.text dialect).toList.map .char

variable (dialect : Dialect)

private theorem lexemes?_append {t : Token} (h : t.IsQuiet) {rest : List Char}
    (hrest : ∀ quote s, t.quoted? = some (quote, s) → rest.head? ≠ some quote) :
    lexemes? ((t.text dialect).toList ++ rest) = (lexemes? rest).map (t.lexemes dialect ++ ·) := by
  unfold lexemes
  cases hquoted : t.quoted? with
  | none =>
    have hplain := isPlain_of_mem_text dialect hquoted h
    exact lexemes?_plain (fun c hc => isQuote_of_isPlain (hplain c hc)) rest
  | some read =>
    obtain ⟨hquote, htext⟩ := text_eq_quoted dialect hquoted
    rw [htext]
    exact lexemes?_quoted hquote read.2 (hrest read.1 read.2 hquoted)

private theorem quoted?_of_isMark {t : Token} (h : t.isMark = true) :
    t.quoted? = none ∧ t.IsQuiet := by
  cases t with
  | symbol | space | newline | indent => exact ⟨rfl, trivial⟩
  | _ => cases h

private theorem isQuote_head_mark {t : Token} (h : t.isMark = true) (rest : List Char) :
    ∃ c, ((t.text dialect).toList ++ rest).head? = some c ∧ isQuote c = false := by
  obtain ⟨hquoted, hquiet⟩ := quoted?_of_isMark h
  obtain ⟨c, hc, -⟩ := Option.map_eq_some_iff.mp (isDigit_head_mark dialect h)
  refine ⟨c, by rw [List.head?_append, hc, Option.some_or], ?_⟩
  exact isQuote_of_isPlain (isPlain_of_mem_text dialect hquoted hquiet c (List.mem_of_mem_head? hc))

private theorem inlined_cons (t : Token) (tokens : List Token) :
    (inlined dialect (t :: tokens)).toList =
      (t.text dialect).toList ++ (inlined dialect tokens).toList := by
  rw [inlined, List.map_cons, String.join_cons, String.toList_append, inlined]

private theorem head_inlined_of_apart {t : Token} {tokens : List Token} (h : Apart (t :: tokens))
    {quote : Char} {s : String} (hquoted : t.quoted? = some (quote, s)) :
    (inlined dialect tokens).toList.head? ≠ some quote := by
  have hquote := (text_eq_quoted dialect hquoted).1
  cases tokens with
  | nil => simp [inlined, String.join]
  | cons u tokens =>
    have hword : t.isMark = false := by
      by_contra hmark
      rw [(quoted?_of_isMark (by simpa using hmark)).1] at hquoted
      cases hquoted
    have hmark : u.isMark = true := by
      simpa [hword] using (List.isChain_cons.mp h).1 u rfl
    obtain ⟨c, hc, hplain⟩ := isQuote_head_mark dialect hmark (inlined dialect tokens).toList
    rw [inlined_cons, hc]
    rintro ⟨⟩
    rw [hquote] at hplain
    cases hplain

private theorem lexemes?_inlined {tokens : List Token} (hapart : Apart tokens)
    (hquiet : ∀ t ∈ tokens, t.IsQuiet) :
    lexemes? (inlined dialect tokens).toList = some (tokens.flatMap (lexemes dialect)) := by
  induction tokens with
  | nil => simp [inlined, String.join, lexemes?]
  | cons t tokens ih =>
    obtain ⟨ht, htokens⟩ := List.forall_mem_cons.mp hquiet
    have hnext : ∀ quote s, t.quoted? = some (quote, s) →
        (inlined dialect tokens).toList.head? ≠ some quote :=
      fun quote s hquoted => head_inlined_of_apart dialect hapart hquoted
    rw [inlined_cons, lexemes?_append dialect ht hnext, ih (List.isChain_cons.mp hapart).2 htokens,
      List.flatMap_cons, Option.map_some]

end Token

/-- Whether the words that an expression is written with can be told from quoted texts: it is no literal
for NaN or an infinity and no call whose name has a quote. -/
def Expr.isTellable (e : Expr) : Bool :=
  e.isWritable && e.isPlainlyNamed

private theorem Spells.lexemes? {tokens : List Token} {written : List Expr}
    (h : Spells tokens written) (htellable : ∀ e ∈ written, e.isTellable = true)
    (dialect : Dialect) :
    lexemes? (Token.inlined dialect tokens).toList =
      some (tokens.flatMap (Token.lexemes dialect)) := by
  have hboth : ∀ e ∈ written, e.isWritable = true ∧ e.isPlainlyNamed = true := fun e he =>
    Bool.and_eq_true_iff.mp (htellable e he)
  exact Token.lexemes?_inlined dialect h.apart fun t ht =>
    (h.words t ht).isQuiet (fun e he => (hboth e he).1) fun e he => (hboth e he).2

private theorem readQuoted?_literal {value : Value} {s : String} (h : value.quotedText? = some s)
    (dialect : Dialect) {rest : List Char} (hrest : rest.head? ≠ some '\'') :
    Text.readQuoted? '\'' ((value.literal dialect).toList ++ rest) = some (s, rest) := by
  have hquoted : (Token.bind value).quoted? = some ('\'', s) := by
    rw [Token.quoted?, h]
    rfl
  have htext : value.literal dialect = Text.quoted '\'' s := (Token.text_eq_quoted dialect hquoted).2
  rw [htext]
  exact Text.readQuoted?_eq_some.mpr ⟨rfl, hrest⟩

/-- A text in quotes is read back whole, whatever it holds and whatever follows that does not go on with
the same quote: as a string, as an identifier and as the literal of a text, an id or a timestamp. In the
texts of expressions, queries and updates each of them is read as one quoted text, and nothing else is.
No two texts are the same in quotes. -/
theorem quoted_stays_whole :
    (∀ (dialect : Dialect) (s : String) (rest : List Char),
      (rest.head? ≠ some '\'' →
        Text.readQuoted? '\'' ((dialect.quoteString s).toList ++ rest) = some (s, rest)) ∧
      (rest.head? ≠ some '"' →
        Text.readQuoted? '"' ((dialect.quoteIdentifier s).toList ++ rest) = some (s, rest))) ∧
    (∀ (dialect : Dialect) (value : Value) (s : String), value.quotedText? = some s →
      ∀ rest : List Char, rest.head? ≠ some '\'' →
        Text.readQuoted? '\'' ((value.literal dialect).toList ++ rest) = some (s, rest)) ∧
    (∀ (dialect : Dialect) (e : Expr), (∀ part ∈ e.written, part.isTellable = true) →
      lexemes? (Token.inlined dialect e.tokens).toList =
        some (e.tokens.flatMap (Token.lexemes dialect))) ∧
    (∀ (dialect : Dialect) (query : Query), (∀ part ∈ query.written, part.isTellable = true) →
      lexemes? (query.text dialect).toList = some (query.tokens.flatMap (Token.lexemes dialect))) ∧
    (∀ (dialect : Dialect) (update : Update), (∀ part ∈ update.written, part.isTellable = true) →
      lexemes? (Token.inlined dialect update.tokens).toList =
        some (update.tokens.flatMap (Token.lexemes dialect))) ∧
    ∀ dialect : Dialect, Function.Injective dialect.quoteString ∧
      Function.Injective dialect.quoteIdentifier := by
  refine ⟨?_, ?_, ?_, ?_, ?_, ?_⟩
  · intro dialect s rest
    exact ⟨fun hrest => Text.readQuoted?_eq_some.mpr ⟨rfl, hrest⟩,
      fun hrest => Text.readQuoted?_eq_some.mpr ⟨rfl, hrest⟩⟩
  · intro dialect value s hvalue rest hrest
    exact readQuoted?_literal hvalue dialect hrest
  · intro dialect e htellable
    exact e.spells.lexemes? htellable dialect
  · intro dialect query htellable
    exact query.spells.lexemes? htellable dialect
  · intro dialect update htellable
    exact update.spells.lexemes? htellable dialect
  · intro dialect
    exact ⟨Text.quoted_injective '\'', Text.quoted_injective '"'⟩

/-- A text of nothing but quotes, a text with one and an update that binds such a text. -/
theorem quoted_stays_whole_sample :
    " OR 1 = 1".toList.head? ≠ some '\'' ∧
    Text.readQuoted? '\'' ((Dialect.sqlite.quoteString "'''").toList ++ " OR 1 = 1".toList) =
      some ("'''", " OR 1 = 1".toList) ∧
    (Value.text "it's").quotedText? = some "it's" ∧
    Text.readQuoted? '\'' (((Value.text "it's").literal .postgres).toList ++ " OR 1 = 1".toList) =
      some ("it's", " OR 1 = 1".toList) ∧
    (∀ part ∈ sampleUpdate.written, part.isTellable = true) ∧
    lexemes? (Token.inlined .sqlite sampleUpdate.tokens).toList =
      some (sampleUpdate.tokens.flatMap (Token.lexemes .sqlite)) := by
  obtain ⟨hquoted, hliteral, _, _, hupdate, _⟩ := quoted_stays_whole
  have hrest : " OR 1 = 1".toList.head? ≠ some '\'' := by decide
  have htellable : ∀ part ∈ sampleUpdate.written, part.isTellable = true := by decide
  exact ⟨hrest, (hquoted .sqlite "'''" _).1 hrest, rfl, hliteral .postgres _ _ rfl _ hrest, htellable,
    hupdate .sqlite sampleUpdate htellable⟩

end TenantGrid.Sql
