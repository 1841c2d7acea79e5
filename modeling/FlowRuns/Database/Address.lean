import FlowRuns.Error
import FlowRuns.Text.Case
import FlowRuns.Text.Form
import FlowRuns.Text.Numeral
import FlowRuns.Url.Basic

/-!
# Addresses of databases

The address of a database is a URL; its query may hold further options. An option that is not known
does not matter; a known one has to have a value of its kind.
-/

namespace FlowRuns.DatabaseAddress

/-- Whether percent-encoded bytes are text. -/
def isText (s : List Char) : Bool := (Text.charsOfBytes? (Text.percentDecode s)).isSome

/-- The ways of protecting a connection. -/
def protections : List String :=
  ["disable", "allow", "prefer", "require", "verify-ca", "verify-full"]

/-- Whether a text is a number up to a bound. -/
def isNumber (bound : Int) (s : String) : Bool :=
  match s.toList with
  | '-' :: _ => false
  | cs => (Text.intOf? 0 bound cs).isSome

/-- Whether a text is an address of four or eight parts. -/
def isHostAddress (s : String) : Bool :=
  (Url.embedded? s.toList).isSome || (Url.ipv6? s.toList).isSome

/-- What the values of the known options have to be. -/
def optionChecks : List (String × (String → Bool)) :=
  [("sslmode", fun s => protections.contains (Text.lowerAscii s)),
   ("ssl-mode", fun s => protections.contains (Text.lowerAscii s)),
   ("statement-cache-capacity", isNumber (UInt64.size - 1)),
   ("port", isNumber (UInt16.size - 1)),
   ("hostaddr", isHostAddress)]

/-- Whether an option can be used. -/
def isUsableOption (o : String × String) : Bool :=
  match optionChecks.lookup o.1 with
  | some check => check o.2
  | none => true

/-- The host of a URL if it names a file, which begins with a slash. -/
def hostFile : Url.Host → List (List Char)
  | .domain name => if (Text.percentDecode name).head? = some 0x2F then [name] else []
  | _ => []

/-- The texts in a URL that have to be text when decoded. -/
def encodedTexts (u : Url) : List (List Char) :=
  (u.authority.map fun a => hostFile a.host ++ [a.user, a.password]).getD [] ++ [u.path.text]

/-- Whether a text is the address of a database. -/
def isUsable (s : String) : Bool :=
  match Url.parse s.toList with
  | .error _ => false
  | .ok u =>
    (encodedTexts u).all isText
      && (Text.Form.decodePairs (u.query.getD [])).all isUsableOption

end FlowRuns.DatabaseAddress
