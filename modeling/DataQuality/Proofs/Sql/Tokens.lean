import DataQuality.Sql.Pattern
import DataQuality.Text.Search

/-!
String literals as a lexer of SQL finds them. A quote opens a literal, two quotes in a literal stand
for one, and a quote that stands alone closes it. Main statements: `tokens?_join` and
`tokens?_preparePattern`.
-/

namespace DataQuality.Sql

/-- A string literal with what it stands for, or a character outside of literals. -/
inductive Token
  | literal (content : List Char)
  | other (c : Char)
  deriving DecidableEq

/-- Where a lexer is. The content of a literal is in reverse; at a quote it is open whether the
literal ends. -/
inductive LexState
  | outside
  | inside (content : List Char)
  | atQuote (content : List Char)

namespace LexState

def tokens? : LexState → List Char → Option (List Token)
  | outside, [] => some []
  | inside _, [] => none
  | atQuote content, [] => some [.literal content.reverse]
  | outside, c :: r =>
    if c = '\'' then (inside []).tokens? r else (outside.tokens? r).map (.other c :: ·)
  | inside content, c :: r =>
    if c = '\'' then (atQuote content).tokens? r else (inside (c :: content)).tokens? r
  | atQuote content, c :: r =>
    if c = '\'' then
      (inside ('\'' :: content)).tokens? r
    else
      (outside.tokens? r).map fun more => .literal content.reverse :: .other c :: more

theorem tokens?_double (content s rest : List Char) :
    (inside content).tokens? (Text.Quoted.double '\'' s ++ rest)
      =
    (inside (s.reverse ++ content)).tokens? rest := by
  induction s generalizing content with
  | nil => rfl
  | cons c r ih =>
    by_cases hc : c = '\''
    . simp [Text.Quoted.double, tokens?, hc, ih]
    . simp [Text.Quoted.double, tokens?, hc, ih]

end LexState

/-- The tokens of a text, if its last literal is closed. -/
def tokens? (s : List Char) : Option (List Token) := LexState.outside.tokens? s

theorem tokens?_cons {c : Char} (h : c ≠ '\'') (r : List Char) :
    tokens? (c :: r) = (tokens? r).map (.other c :: ·) := by
  unfold tokens?
  rw [LexState.tokens?, if_neg h]

theorem tokens?_quoted_append {rest : List Char} (h : rest.head? ≠ some '\'') (s : List Char) :
    tokens? (quoted s ++ rest) = (tokens? rest).map (.literal s :: ·) := by
  have hquoted : quoted s ++ rest = '\'' :: (Text.Quoted.double '\'' s ++ '\'' :: rest) := by
    simp [quoted, Text.Quoted.write]
  have hcontent : tokens? (quoted s ++ rest) = (LexState.atQuote s.reverse).tokens? rest := by
    rw [hquoted]
    unfold tokens?
    rw [LexState.tokens?, if_pos rfl, LexState.tokens?_double, LexState.tokens?, if_pos rfl,
      List.append_nil]
  rw [hcontent]
  cases rest with
  | nil => simp [LexState.tokens?, tokens?]
  | cons c r =>
    have hc : c ≠ '\'' := fun hc => h (congrArg some hc)
    rw [tokens?_cons hc, LexState.tokens?, if_neg hc, Option.map_map]
    simp [tokens?, Function.comp_def]

theorem tokens?_quoted (s : List Char) : tokens? (quoted s) = some [.literal s] := by
  have hend : ([] : List Char).head? ≠ some '\'' := by decide
  have := tokens?_quoted_append hend s
  rwa [List.append_nil] at this

/-- The tokens of a list of literals: one for each value, with a comma and a space between two. -/
def listTokens (values : List String) : List Token :=
  [Token.other ',', Token.other ' '].intercalate (values.map fun s => [.literal s.toList])

theorem toList_quoteText (s : String) : (quoteText s).toList = quoted s.toList :=
  String.toList_ofList

theorem tokens?_join (values : List String) :
    tokens? (Text.join ", " (values.map quoteText)).toList = some (listTokens values) := by
  induction values with
  | nil => rfl
  | cons s rest ih =>
    cases rest with
    | nil => exact (congrArg tokens? (toList_quoteText s)).trans (tokens?_quoted s.toList)
    | cons t rest =>
      have hjoin : (Text.join ", " ((s :: t :: rest).map quoteText)).toList
          = quoted s.toList
            ++ ',' :: ' ' :: (Text.join ", " ((t :: rest).map quoteText)).toList := by
        simp [Text.join, toList_quoteText]
      have hlist : listTokens (s :: t :: rest)
          = .literal s.toList :: .other ',' :: .other ' ' :: listTokens (t :: rest) := by
        simp [listTokens, List.intercalate_cons_cons]
      rw [hjoin, tokens?_quoted_append (by simp), tokens?_cons (by decide),
        tokens?_cons (by decide), ih, hlist]
      rfl

example :
    tokens? "'it''s', ''', ''', ''".toList = some (listTokens ["it's", "', '", ""]) := by
  decide

theorem tokens?_preparePattern {reader : PatternReader} {pattern text : String}
    (h : preparePattern reader pattern = .ok text) :
    tokens? ("'" ++ text ++ "'").toList = some [.literal pattern.toList] := by
  have htext : text = doubleQuotes pattern := by
    unfold preparePattern at h
    split at h
    . cases h
    . cases h
      rfl
  have hquoted : ("'" ++ text ++ "'").toList = quoted pattern.toList := by
    rw [htext]
    simp [doubleQuotes, quoted, Text.Quoted.write]
  rw [hquoted, tokens?_quoted]

end DataQuality.Sql
