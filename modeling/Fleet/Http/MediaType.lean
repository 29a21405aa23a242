import Fleet.Text.Cut

namespace Fleet
namespace Http
namespace MediaType

/-!
# Media types

Whether a body is announced as a document.  The announcement has to be a well-formed media type: two
tokens with a slash between them, and parameters that follow semicolons.  Blanks may stand in front of a
parameter and behind a quoted value, and nowhere else.
-/

def isTokenChar (c : Char) : Bool :=
  c.isAlphanum || "!#$%&'*+-.^_\x60|~".toList.contains c

def isQuotedChar (c : Char) : Bool :=
  c == '\t' || (32 ≤ c.toNat && c.toNat < 127)

/-- Whether the text is what may follow a quoted value. -/
private def afterQuoted (more : List Char → Bool) (text : List Char) : Bool :=
  match Text.stripStart ' ' text with
  | [] => true
  | ';' :: rest => more rest
  | _ => false

/-- Whether the text is the value of a parameter with what may follow it.  A quoted value is not empty. -/
private def isValue (more : List Char → Bool) (text : List Char) : Bool :=
  match text with
  | '"' :: first :: quoted =>
      isQuotedChar first &&
        match Text.cutFirst '"' quoted with
        | some (value, rest) => value.all isQuotedChar && afterQuoted more rest
        | none => false
  | _ =>
      match text.dropWhile isTokenChar with
      | [] => true
      | ';' :: rest => !(text.takeWhile isTokenChar).isEmpty && more rest
      | _ => false

/-- Whether the text is a list of parameters.  The last semicolon may be followed by blanks alone. -/
def areParameters : (fuel : Nat) → List Char → Bool
  | 0, _ => false
  | fuel + 1, text =>
      match Text.stripStart ' ' text with
      | [] => true
      | text =>
          !(text.takeWhile isTokenChar).isEmpty &&
            match text.dropWhile isTokenChar with
            | '=' :: value => isValue (areParameters fuel) value
            | _ => false

/-- Whether a subtype is that of documents, or of a notation that is built on theirs. -/
def isDocumentSubtype (subtype : List Char) : Bool :=
  let name := Text.lowered subtype
  let (base, suffix) :=
    match Text.cutLast '+' name with
    | some ([], _) => (name, [])
    | some (base, suffix) => (base, suffix)
    | none => (name, [])
  base == "json".toList || suffix == "json".toList

def isDocument (contentType : String) : Bool :=
  match Text.cutFirst '/' contentType.toList with
  | none => false
  | some (type, rest) =>
      let subtype := rest.takeWhile isTokenChar
      Text.lowered type == "application".toList && isDocumentSubtype subtype &&
        match rest.dropWhile isTokenChar with
        | [] => true
        | ';' :: parameters => areParameters (parameters.length + 1) parameters
        | _ => false

end MediaType
end Http
end Fleet
