import TenantGrid.Proofs.Number.Written
import TenantGrid.Proofs.Sql.Spelling
import TenantGrid.Proofs.Text.Runs
/-!
# Placeholders and bound values

A statement has a placeholder for each of its parameters, numbered from one in the order in which the
parameters are written. A reader that knows no more of SQL than where quoted texts end finds exactly
these placeholders in the text, and with the literals of the parameters in their places the text is
that of the statement with its values inlined.
-/
namespace TenantGrid.Sql

/-- The texts of tokens, with the given ones in the places of bound values, one after the other. -/
def Token.textsWith (dialect : Dialect) : List String → List Token → List String
  | _, [] => []
  | texts, .bind _ :: rest => texts.headD "" :: textsWith dialect texts.tail rest
  | texts, token :: rest => token.text dialect :: textsWith dialect texts rest

/-- The placeholders of as many parameters, the first of them with the given number. -/
def Dialect.placeholders (dialect : Dialect) (first count : Nat) : List String :=
  (List.range' first count).map dialect.placeholder

private theorem Statement.partsFrom_eq_textsWith (dialect : Dialect) (first : Nat)
    (tokens : List Token) :
    partsFrom dialect first tokens =
      Token.textsWith dialect
        (dialect.placeholders first (tokens.filterMap Token.bound?).length) tokens := by
  induction tokens generalizing first with
  | nil => rfl
  | cons t rest ih =>
    cases t with
    | bind value =>
      simp [partsFrom, Token.textsWith, Token.bound?, Dialect.placeholders, List.range'_succ, ih]
    | _ => simp [partsFrom, Token.textsWith, Token.bound?, List.filterMap_cons, ih]

private theorem Token.map_text_eq_textsWith (dialect : Dialect) (tokens : List Token) :
    tokens.map (text dialect) =
      textsWith dialect ((tokens.filterMap bound?).map (Value.literal dialect)) tokens := by
  induction tokens with
  | nil => rfl
  | cons t rest ih =>
    cases t with
    | bind value => simp [textsWith, bound?, text, ih]
    | _ => simp [textsWith, bound?, List.filterMap_cons, ih]

/-- What a reader makes of SQL text. -/
inductive Piece where
  | char (c : Char)
  /-- A placeholder with the digits of its number. -/
  | placeholder (digits : List Char)
  deriving DecidableEq

/-- What placeholders begin with. -/
def Dialect.placeholderMark : Dialect → Char
  | sqlite => '?'
  | postgres => '$'

def isQuote (c : Char) : Bool :=
  c == '\'' || c == '"'

/-- The pieces of a text, read after the opening quote of a quoted text if one is open. A quote
that is written twice closes the quoted text and opens it again. -/
def piecesOf (mark : Char) : Option Char → List Char → List Piece
  | _, [] => []
  | some quote, c :: rest =>
    .char c :: piecesOf mark (if c = quote then none else some quote) rest
  | none, c :: rest =>
    if c = mark then
      .placeholder (rest.takeWhile Char.isDigit) :: piecesOf mark none (rest.dropWhile Char.isDigit)
    else .char c :: piecesOf mark (if isQuote c then some c else none) rest
termination_by _ text => text.length
decreasing_by
  · simp
  · exact Nat.lt_succ_of_le (List.dropWhile_sublist _).length_le
  · simp

namespace Piece

def digits? : Piece → Option (List Char)
  | char _ => none
  | placeholder digits => some digits

/-- The text of pieces, with the given texts in the places of placeholders, one after the other. -/
def filled : List String → List Piece → List Char
  | _, [] => []
  | texts, char c :: rest => c :: filled texts rest
  | texts, placeholder _ :: rest => (texts.headD "").toList ++ filled texts.tail rest

end Piece

/-- The characters that neither open a quoted text nor mark a placeholder. -/
def isPlain (c : Char) : Bool :=
  !isQuote c && c != '?' && c != '$'

section Reading

variable {mark : Char}

/-- Whether a text is read as nothing but its characters, whatever follows it. -/
def ReadsAsItself (mark : Char) (text : List Char) : Prop :=
  ∀ rest, piecesOf mark none (text ++ rest) = text.map Piece.char ++ piecesOf mark none rest

private theorem readsAsItself_plain (hmark : isPlain mark = false) {text : List Char}
    (h : ∀ c ∈ text, isPlain c = true) : ReadsAsItself mark text := by
  intro rest
  induction text with
  | nil => rfl
  | cons c text ih =>
    obtain ⟨hc, htext⟩ := List.forall_mem_cons.mp h
    have hne : c ≠ mark := by
      rintro rfl
      rw [hmark] at hc
      exact absurd hc (by decide)
    have hquote : isQuote c = false := by
      simp only [isPlain, Bool.and_eq_true, Bool.not_eq_true'] at hc
      exact hc.1.1
    simp [piecesOf, hne, hquote, ih htext]

private theorem piecesOf_doubled {quote : Char} (hquote : isQuote quote = true) (hne : quote ≠ mark)
    (text rest : List Char) :
    piecesOf mark (some quote) (Text.doubled quote text ++ quote :: rest) =
      (Text.doubled quote text ++ [quote]).map Piece.char ++ piecesOf mark none rest := by
  induction text with
  | nil => simp [Text.doubled, piecesOf]
  | cons c text ih =>
    by_cases hc : c = quote
    · simpa [Text.doubled, hc, piecesOf, hne, hquote] using ih
    · simpa [Text.doubled, hc, piecesOf] using ih

private theorem readsAsItself_quoted {quote : Char} (hquote : isQuote quote = true)
    (hne : quote ≠ mark) (text : String) : ReadsAsItself mark (Text.quoted quote text).toList := by
  intro rest
  have hinner := piecesOf_doubled hquote hne text.toList rest
  simpa [Text.quoted, piecesOf, hne, hquote] using hinner

private theorem piecesOf_placeholder {digits rest : List Char}
    (hdigits : ∀ c ∈ digits, c.isDigit = true) (hrest : ∀ c ∈ rest.head?, c.isDigit = false) :
    piecesOf mark none (mark :: digits ++ rest) =
      .placeholder digits :: piecesOf mark none rest := by
  rw [List.cons_append, piecesOf, if_pos rfl, Text.takeWhile_run hdigits hrest,
    Text.dropWhile_run hdigits hrest]

end Reading

namespace Dialect

private theorem isPlain_placeholderMark (dialect : Dialect) :
    isPlain dialect.placeholderMark = false := by
  cases dialect <;> decide

private theorem not_isQuote_placeholderMark (dialect : Dialect) :
    isQuote dialect.placeholderMark = false := by
  cases dialect <;> decide

private theorem placeholder_toList (dialect : Dialect) (index : Nat) :
    (dialect.placeholder index).toList = dialect.placeholderMark :: (Nat.repr index).toList := by
  cases dialect <;> simp [placeholder, placeholderMark]

end Dialect

private theorem isPlain_of_isNumeric {c : Char} (h : isNumeric c = true) : isPlain c = true := by
  have hne : ∀ d : Char, isNumeric d = false → c ≠ d := by
    rintro d hd rfl
    rw [h] at hd
    exact absurd hd (by decide)
  simp [isPlain, isQuote, hne '\'' (by decide), hne '"' (by decide), hne '?' (by decide),
    hne '$' (by decide)]

private theorem numberStyle_marksNumbers : numberStyle.MarksNumbers :=
  ⟨List.all_eq_true.mp (by decide), List.all_eq_true.mp (by decide), by decide⟩

private theorem isPlain_of_mem_real {x : Double} {c : Char} (h : c ∈ (numberStyle.text x).toList) :
    isPlain c = true := by
  cases x with
  | nan => exact List.all_eq_true.mp (show "NaN".toList.all isPlain = true by decide) c h
  | infinite negative =>
    have hall : (numberStyle.text (.infinite negative)).toList.all isPlain = true := by
      cases negative <;> decide
    exact List.all_eq_true.mp hall c h
  | finite negative significand exponent =>
    exact isPlain_of_isNumeric ((NumberStyle.text_finite numberStyle_marksNumbers rfl).1 c h)

/-- The text of a value whose literal is written in quotes. -/
def Value.quotedText? : Value → Option String
  | text s => some s
  | uuid id => some id.text
  | timestamp t => some t.storedText
  | _ => none

namespace Token

/-- Whether the text of a token opens no quoted text that it does not close and marks no placeholder
outside one. -/
def IsQuiet : Token → Prop
  | realLiteral x => x.isFinite = true
  | function name => ∀ c ∈ (Text.upper name).toList, isPlain c = true
  | dataType _ | verbatim _ => False
  | _ => True

/-- The quote and the text of a token that is written in quotes. -/
def quoted? : Token → Option (Char × String)
  | identifier name => some ('"', name)
  | stringLiteral s => some ('\'', s)
  | bind value => value.quotedText?.map fun s => ('\'', s)
  | _ => none

theorem text_eq_quoted (dialect : Dialect) {t : Token} {quote : Char} {s : String}
    (h : t.quoted? = some (quote, s)) :
    isQuote quote = true ∧ t.text dialect = Text.quoted quote s := by
  cases t with
  | identifier | stringLiteral =>
    cases h
    exact ⟨by decide, rfl⟩
  | bind value =>
    cases value with
    | text | uuid | timestamp =>
      cases h
      exact ⟨by decide, rfl⟩
    | _ => cases h
  | _ => cases h

/-- What is not written in quotes has no quotes and no placeholder marks. -/
theorem isPlain_of_mem_text (dialect : Dialect) {t : Token} (hquoted : t.quoted? = none)
    (h : t.IsQuiet) : ∀ c ∈ (t.text dialect).toList, isPlain c = true := by
  have hall {s : String} (hs : s.toList.all isPlain = true) : ∀ c ∈ s.toList, isPlain c = true :=
    List.all_eq_true.mp hs
  cases t with
  | keyword word => exact hall (by cases word <;> cases dialect <;> decide)
  | symbol mark => exact hall (by cases mark <;> cases dialect <;> decide)
  | space | newline | nullLiteral => exact hall (by cases dialect <;> decide)
  | indent depth =>
    intro c hc
    rw [text, String.toList_ofList] at hc
    rw [List.eq_of_mem_replicate hc]
    decide
  | intLiteral n => exact fun c hc => isPlain_of_isNumeric (JsonNumber.isNumeric_whole hc).1
  | realLiteral x => exact fun c hc => isPlain_of_mem_real hc
  | boolLiteral b => exact hall (by cases b <;> cases dialect <;> decide)
  | bind value =>
    cases value with
    | null => exact hall (by cases dialect <;> decide)
    | int n => exact fun c hc => isPlain_of_isNumeric (JsonNumber.isNumeric_whole hc).1
    | real x => exact fun c hc => isPlain_of_mem_real hc
    | bool b => exact hall (by cases b <;> cases dialect <;> decide)
    | _ => cases hquoted
  | function name => exact h
  | identifier | stringLiteral => cases hquoted
  | dataType | verbatim => exact h.elim

private theorem readsAsItself (dialect : Dialect) {t : Token} (h : t.IsQuiet) :
    ReadsAsItself dialect.placeholderMark (t.text dialect).toList := by
  cases hquoted : t.quoted? with
  | none =>
    exact readsAsItself_plain dialect.isPlain_placeholderMark (isPlain_of_mem_text dialect hquoted h)
  | some read =>
    obtain ⟨hquote, htext⟩ := text_eq_quoted dialect hquoted
    rw [htext]
    refine readsAsItself_quoted hquote ?_ read.2
    intro hmark
    rw [hmark, dialect.not_isQuote_placeholderMark] at hquote
    cases hquote

/-- A mark is not taken for a further digit of a number before it. -/
theorem isDigit_head_mark (dialect : Dialect) {t : Token} (h : t.isMark = true) :
    (t.text dialect).toList.head?.map Char.isDigit = some false := by
  cases t with
  | symbol mark => cases mark <;> cases dialect <;> decide
  | space | newline => cases dialect <;> decide
  | indent depth =>
    have hdepth : 2 * depth = 2 * depth - 1 + 1 := by
      simp only [isMark, decide_eq_true_eq] at h
      omega
    rw [text, String.toList_ofList, hdepth, List.replicate_succ]
    rfl
  | _ => simp [isMark] at h

section Pieces

variable (dialect : Dialect)

/-- The pieces of tokens whose first placeholder has the given number. -/
def piecesFrom : Nat → List Token → List Piece
  | _, [] => []
  | index, .bind _ :: rest =>
    .placeholder (Nat.repr index).toList :: piecesFrom (index + 1) rest
  | index, token :: rest => (token.text dialect).toList.map .char ++ piecesFrom index rest

variable {dialect}

private theorem eq_bind {t : Token} {value : Value} (h : t.bound? = some value) :
    t = .bind value := by
  cases t with
  | bind v => exact congrArg bind (Option.some.inj h)
  | _ => simp [bound?] at h

private theorem partsFrom_cons {t : Token} (hbound : t.bound? = none) (index : Nat)
    (rest : List Token) :
    Statement.partsFrom dialect index (t :: rest) =
      t.text dialect :: Statement.partsFrom dialect index rest := by
  cases t with
  | bind value => simp [bound?] at hbound
  | _ => rfl

private theorem piecesFrom_cons {t : Token} (hbound : t.bound? = none) (index : Nat)
    (rest : List Token) :
    piecesFrom dialect index (t :: rest) =
      (t.text dialect).toList.map .char ++ piecesFrom dialect index rest := by
  cases t with
  | bind value => simp [bound?] at hbound
  | _ => rfl

private theorem isDigit_head_parts {tokens : List Token} (h : ∀ t ∈ tokens.head?, t.isMark = true)
    (index : Nat) :
    ∀ c ∈ (String.join (Statement.partsFrom dialect index tokens)).toList.head?,
      c.isDigit = false := by
  cases tokens with
  | nil => simp [Statement.partsFrom, String.join]
  | cons t rest =>
    have hmark : t.isMark = true := h t rfl
    obtain ⟨d, hd, hdigit⟩ := Option.map_eq_some_iff.mp (isDigit_head_mark dialect hmark)
    rw [partsFrom_cons (bound?_of_isMark hmark), String.join_cons, String.toList_append,
      List.head?_append, hd]
    rintro c ⟨⟩
    exact hdigit

private theorem piecesOf_parts {tokens : List Token} (hapart : Apart tokens)
    (hquiet : ∀ t ∈ tokens, t.bound? = none → t.IsQuiet) (index : Nat) :
    piecesOf dialect.placeholderMark none
        (String.join (Statement.partsFrom dialect index tokens)).toList =
      piecesFrom dialect index tokens := by
  induction tokens generalizing index with
  | nil => simp [Statement.partsFrom, piecesFrom, piecesOf, String.join]
  | cons t rest ih =>
    obtain ⟨hnext, hrest⟩ := List.isChain_cons.mp hapart
    obtain ⟨ht, hothers⟩ := List.forall_mem_cons.mp hquiet
    cases hbound : t.bound? with
    | none =>
      rw [partsFrom_cons hbound, String.join_cons, String.toList_append,
        readsAsItself dialect (ht hbound), ih hrest hothers, piecesFrom_cons hbound]
    | some value =>
      obtain rfl := eq_bind hbound
      -- What follows a placeholder is a mark, so its number ends there.
      have hmark : ∀ u ∈ rest.head?, u.isMark = true := by
        intro u hu
        simpa [isMark] using hnext u hu
      have hdigits : ∀ c ∈ (Nat.repr index).toList, c.isDigit = true :=
        fun c hc => isDigit_of_mem_natRepr hc
      rw [Statement.partsFrom, String.join_cons, String.toList_append, dialect.placeholder_toList,
        piecesOf_placeholder hdigits (isDigit_head_parts hmark (index + 1)), ih hrest hothers,
        piecesFrom]

private theorem digits_piecesFrom (index : Nat) (tokens : List Token) :
    (piecesFrom dialect index tokens).filterMap Piece.digits? =
      (List.range' index (tokens.filterMap bound?).length).map fun k => (Nat.repr k).toList := by
  have hchars : ∀ text : List Char, (text.map Piece.char).filterMap Piece.digits? = [] := by
    intro text
    simp [List.filterMap_map, Function.comp_def, Piece.digits?]
  induction tokens generalizing index with
  | nil => rfl
  | cons t rest ih =>
    cases hbound : t.bound? with
    | none =>
      rw [piecesFrom_cons hbound, List.filterMap_append, hchars, ih,
        List.filterMap_cons_none hbound, List.nil_append]
    | some value =>
      obtain rfl := eq_bind hbound
      simp [piecesFrom, Piece.digits?, ih, hbound, List.range'_succ]

private theorem textsWith_cons {t : Token} (hbound : t.bound? = none) (texts : List String)
    (rest : List Token) :
    textsWith dialect texts (t :: rest) = t.text dialect :: textsWith dialect texts rest := by
  cases t with
  | bind value => simp [bound?] at hbound
  | _ => rfl

private theorem filled_piecesFrom (texts : List String) (index : Nat) (tokens : List Token) :
    Piece.filled texts (piecesFrom dialect index tokens) =
      (String.join (textsWith dialect texts tokens)).toList := by
  have hchars : ∀ (text : List Char) (texts : List String) (pieces : List Piece),
      Piece.filled texts (text.map Piece.char ++ pieces) = text ++ Piece.filled texts pieces := by
    intro text texts pieces
    induction text with
    | nil => rfl
    | cons c text ih => simpa [Piece.filled] using ih
  induction tokens generalizing texts index with
  | nil => simp [piecesFrom, Piece.filled, textsWith, String.join]
  | cons t rest ih =>
    cases hbound : t.bound? with
    | none =>
      rw [piecesFrom_cons hbound, hchars, ih, textsWith_cons hbound, String.join_cons,
        String.toList_append]
    | some value =>
      obtain rfl := eq_bind hbound
      rw [piecesFrom, Piece.filled, ih, textsWith, String.join_cons, String.toList_append]

end Pieces

end Token

/-- Whether an expression is no literal for NaN or an infinity. -/
def Expr.isWritable : Expr → Bool
  | .literal (.real x) => x.isFinite
  | _ => true

/-- Whether an expression is no call whose name has a quote or a placeholder mark. -/
def Expr.isPlainlyNamed : Expr → Bool
  | .call name _ _ => (Text.upper name).toList.all isPlain
  | _ => true

/-- Whether statements with the tokens, and their texts with values inlined, carry the parameters of
the expressions. -/
structure Carries (tokens : List Token) (written : List Expr) (statement : Dialect → Statement)
    (text : Dialect → String) : Prop where
  /-- The parameters do not depend on the dialect. -/
  params : ∀ dialect, (statement dialect).params = written.filterMap Expr.param?
  /-- Every token can be written. -/
  sound : Token.firstFault? tokens = none
  /-- The placeholders count up from one. -/
  sql : ∀ dialect, (statement dialect).sql = String.join (Token.textsWith dialect
    (dialect.placeholders 1 (statement dialect).params.length) tokens)
  /-- Inlined, the literals of the parameters are in the places of the placeholders. -/
  inlined : ∀ dialect, text dialect = String.join (Token.textsWith dialect
    ((statement dialect).params.map (Value.literal dialect)) tokens)
  /-- A reader of the text finds the same placeholders and no others, unless the name of a function
  is taken for one. -/
  read : ∀ dialect, (∀ e ∈ written, e.isPlainlyNamed = true) →
    let pieces := piecesOf dialect.placeholderMark none (statement dialect).sql.toList
    pieces.filterMap Piece.digits? =
        (List.range' 1 (statement dialect).params.length).map (fun k => (Nat.repr k).toList) ∧
      Piece.filled ((statement dialect).params.map (Value.literal dialect)) pieces =
        (text dialect).toList

theorem Token.SpelledBy.isQuiet {t : Token} {written : List Expr} (h : t.SpelledBy written)
    (hwritable : ∀ e ∈ written, e.isWritable = true)
    (hplain : ∀ e ∈ written, e.isPlainlyNamed = true) : t.IsQuiet := by
  cases t with
  | realLiteral x => exact hwritable _ h
  | function name =>
    obtain ⟨distinct, args, hcall⟩ := h
    exact List.all_eq_true.mp (hplain _ hcall)
  | dataType type => exact h
  | verbatim text => exact h
  | _ => trivial

private theorem Token.SpelledBy.fault?_eq_none {t : Token} {written : List Expr}
    (h : t.SpelledBy written) (hwritable : ∀ e ∈ written, e.isWritable = true) :
    t.fault? = none := by
  cases t with
  | realLiteral x =>
    have hx : x.isFinite = true := hwritable _ h
    cases x with
    | nan | infinite => simp [Double.isFinite] at hx
    | finite negative significand exponent => rfl
  | _ => rfl

private theorem Spells.carries {tokens : List Token} {written : List Expr}
    (h : Spells tokens written) (hwritable : ∀ e ∈ written, e.isWritable = true) :
    Carries tokens written (fun dialect => .ofTokens dialect tokens)
      (fun dialect => Token.inlined dialect tokens) where
  params _ := h.bound
  sound := by
    rw [Token.firstFault?, List.findSome?_eq_none_iff]
    exact fun t ht => (h.words t ht).fault?_eq_none hwritable
  sql dialect := congrArg String.join (Statement.partsFrom_eq_textsWith dialect 1 tokens)
  inlined dialect := congrArg String.join (Token.map_text_eq_textsWith dialect tokens)
  read := by
    intro dialect hplain
    have hpieces : piecesOf dialect.placeholderMark none
        (Statement.ofTokens dialect tokens).sql.toList = Token.piecesFrom dialect 1 tokens :=
      Token.piecesOf_parts h.apart (fun t ht _ => (h.words t ht).isQuiet hwritable hplain) 1
    have hinlined : Token.inlined dialect tokens = String.join (Token.textsWith dialect
        ((tokens.filterMap Token.bound?).map (Value.literal dialect)) tokens) :=
      congrArg String.join (Token.map_text_eq_textsWith dialect tokens)
    rw [hpieces, hinlined]
    exact ⟨Token.digits_piecesFrom 1 tokens, Token.filled_piecesFrom _ 1 tokens⟩

/-- Statements carry the parameters of their expressions, of queries of any depth and of updates:
the placeholders are numbered in the order in which the parameters are written, and the literals of
the parameters in their places give the inlined text. -/
theorem statements_carry_params :
    (∀ e : Expr, (∀ part ∈ e.written, part.isWritable = true) →
      Carries e.tokens e.written (fun dialect => .ofTokens dialect e.tokens)
        fun dialect => Token.inlined dialect e.tokens) ∧
    (∀ query : Query, (∀ part ∈ query.written, part.isWritable = true) →
      Carries query.tokens query.written (fun dialect => query.statement dialect)
        fun dialect => query.text dialect) ∧
    ∀ update : Update, (∀ part ∈ update.written, part.isWritable = true) →
      Carries update.tokens update.written (fun dialect => update.statement dialect)
        fun dialect => Token.inlined dialect update.tokens :=
  ⟨fun e hwritable => e.spells.carries hwritable, fun query hwritable => query.spells.carries hwritable,
    fun update hwritable => update.spells.carries hwritable⟩

/-- An update with parameters in its assignment, in a nested query and in the query nested there. -/
def sampleUpdate : Update where
  table := "t"
  assignments := [("a", .param (.text "it's ?1"))]
  filter := some (.inQuery (.bare "b") {
    select := [{ expr := .call "max" false [.param (.int 7)] }]
    source := some { table := "u" }
    joins := [⟨.left, { table := "v" }, (Expr.bare "c?").eq (.param .null)⟩]
    filter := some (.inQuery (.literal (.real (.finite false 3 (-1))))
      { select := [{ expr := .param (.bool true) }] } false) } true)

theorem statements_carry_params_sample :
    (∀ part ∈ sampleUpdate.written, part.isWritable = true) ∧
    (∀ part ∈ sampleUpdate.written, part.isPlainlyNamed = true) ∧
    (sampleUpdate.statement .sqlite).params = [.text "it's ?1", .int 7, .null, .bool true] ∧
    Carries sampleUpdate.tokens sampleUpdate.written (fun dialect => sampleUpdate.statement dialect)
      fun dialect => Token.inlined dialect sampleUpdate.tokens := by
  have hwritable : ∀ part ∈ sampleUpdate.written, part.isWritable = true := by decide
  exact ⟨hwritable, by decide, rfl, statements_carry_params.2.2 sampleUpdate hwritable⟩

end TenantGrid.Sql
