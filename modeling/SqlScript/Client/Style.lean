/-
SqlScript/Client/Style.lean

Styles of bound parameters, and literals of the database's language.

A driver marks bound values in one of several styles.  Only the question mark and
the two percent styles are positional markers that scripts can use; with any other
style the question mark is used.

A literal text is put between single quotes, and single quotes in it are doubled.
Under a percent style the text of a statement is interpolated by the driver, so
percent signs in literal texts are doubled as well, though not in texts that stand for
bytes.
-/
import SqlScript.Client
import SqlScript.Text.Utf8

namespace SqlScript

/-- How a driver marks bound values. -/
inductive BindStyle where
  | qmark
  | format
  | pyformat
  | named
  | numeric
  deriving DecidableEq, Repr, Inhabited

namespace BindStyle

/-- The name of a style. -/
def name : BindStyle → String
  | .qmark => "qmark"
  | .format => "format"
  | .pyformat => "pyformat"
  | .named => "named"
  | .numeric => "numeric"

/-- The style of a name. -/
def ofName? (name : String) : Option BindStyle :=
  [BindStyle.qmark, .format, .pyformat, .named, .numeric].find? fun s => s.name = name

/-- The style's marker of a bound value. -/
def marker : BindStyle → String
  | .format => "%s"
  | .pyformat => "%s"
  | _ => "?"

/-- Whether the driver interpolates statements. -/
def interpolates : BindStyle → Bool
  | .format => true
  | .pyformat => true
  | _ => false

/-- Doubles the occurrences of a character. -/
def double (d : Char) (cs : List Char) : List Char :=
  cs.flatMap fun c => if c = d then [c, c] else [c]

/-- A text between single quotes, with the single quotes in it doubled. -/
def enclose (cs : List Char) : String :=
  String.ofList ('\'' :: (double '\'' cs ++ ['\'']))

/-- A literal text. -/
def textLiteral (style : BindStyle) (cs : List Char) : String :=
  enclose (if style.interpolates then double '%' cs else cs)

/-- A value as a literal.  Bytes count as the text they encode; bytes that encode
none, and lists, are quoted in the form they are shown in. -/
def literal (style : BindStyle) : Value → String
  | .null => "NULL"
  | .bool b => if b then "1" else "0"
  | .int n => Text.intText n
  | .decimal d => d.text
  | .float x => x.shortestText
  | .text s => style.textLiteral s.toList
  | .bytes bs =>
    match Text.decodeUtf8 bs with
    | .ok cs => enclose cs
    | .error _ => enclose (Text.quotedBytes bs).toList
  | .list vs => enclose (Value.displayList vs).toList

end BindStyle

namespace Client

/-- A client of a driver with a bind style. -/
def ofStyle {σ : Type} (style : BindStyle) (query : String → List Value → σ → Reply × σ) :
    Client σ where
  bindMarker := style.marker
  quote := style.literal
  logsQueries := true
  query := query

/-- A plain client: any bind marker, and literals as values are shown. -/
def plain {σ : Type} (bindMarker : String) (query : String → List Value → σ → Reply × σ) :
    Client σ where
  bindMarker := bindMarker
  quote := Value.display
  logsQueries := false
  query := query

end Client

end SqlScript
