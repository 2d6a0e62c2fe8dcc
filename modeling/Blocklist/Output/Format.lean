import Blocklist.Json.Writing
import Blocklist.Output.Hostnames
import Blocklist.Program
import Blocklist.Timestamp

/-!
# Output formats

The formats in which hostnames are written for other software: one line for each hostname, after an
optional header, or a JSON document.
-/

namespace Blocklist

/-- An output format. -/
inductive Format where
  | adblock
  | hosts
  | dnsmasq
  | pihole
  | json
  | doh
  | unbound
deriving DecidableEq, Repr

namespace Format

/-- All formats. -/
def all : List Format := [adblock, hosts, dnsmasq, pihole, json, doh, unbound]

/-- The name of the format. -/
def name : Format → Text
  | adblock => "adblock"
  | hosts => "hosts"
  | dnsmasq => "dnsmasq"
  | pihole => "pihole"
  | json => "json"
  | doh => "doh"
  | unbound => "unbound"

/-- The format of this name. -/
def ofName? (s : Text) : Option Format := all.find? (·.name = s)

/-- The format of this name in any case. -/
def ofAnyCase? (s : Text) : Option Format := ofName? s.lower

/-- The text of the error that a name is no format's. -/
def unknownMessage (s : Text) : Text :=
  "Unknown output format " ++ s.quoted ++ " (expected one of: " ++
    Text.join [',', ' '] (all.map name) ++ ")"

end Format

namespace Output

/-- The address that hosts lines give to blocked hostnames, if nothing else is asked for. -/
def defaultIp : Text := "0.0.0.0"

/-- What a document says besides its hostnames. -/
structure Options where
  header : Bool := false
  ip : Text := defaultIp
  title : Text := "Compiled filter list"
  generated : Timestamp

/-- What starts the lines of a header. -/
def commentMark : Format → Text
  | .adblock => ['!']
  | _ => ['#']

/-- The header of a document with `count` hostnames. -/
def headerLines (f : Format) (o : Options) (count : Nat) : List Text :=
  if o.header then
    let mark := commentMark f
    [mark ++ " Title: " ++ o.title, mark ++ " Generated: " ++ o.generated.text,
      mark ++ " Generator: " ++ Program.signature, mark ++ " Hostnames: " ++ Text.ofNat count, mark]
  else []

/-- The line for a hostname. -/
def hostLine (f : Format) (o : Options) (host : Text) : Text :=
  match f with
  | .adblock => domainMark ++ host ++ [separator]
  | .hosts => o.ip ++ ' ' :: host
  | .dnsmasq => "address=/" ++ host ++ ['/']
  | .unbound => "    local-zone: \"" ++ host ++ "\" always_nxdomain"
  | _ => host

/-- Lines, each with its line feed. -/
def textOfLines (lines : List Text) : Text := lines.flatMap (· ++ ['\n'])

/-- The members that both JSON documents start with. -/
def documentHead (o : Options) : List (Text × Json) :=
  [("name", .string o.title), ("generated", .string o.generated.text),
    ("generator", .string Program.signature)]

/-- The member with the number of hostnames. -/
def documentStats (hosts : List Text) : Text × Json :=
  ("stats", .object [("uniqueHostnames", .int hosts.length)])

/-- The document of all hostnames in a list. -/
def jsonDocument (o : Options) (hosts : List Text) : Json :=
  let list : Text × Json := ("hostnames", .array (hosts.map .string))
  .object (documentHead o ++ [documentStats hosts, list])

/-- The document with a rule for each hostname. -/
def dohDocument (o : Options) (hosts : List Text) : Json :=
  let rule (h : Text) : Json := .object [("domain", .string h), ("type", .string "block")]
  let rules : Text × Json := ("rules", .array (hosts.map rule))
  .object (documentHead o ++ [rules, documentStats hosts])

/-- The document for some hostnames. -/
def document (f : Format) (o : Options) (hosts : List Text) : Text :=
  match f with
  | .json => (jsonDocument o hosts).write 0 ++ ['\n']
  | .doh => (dohDocument o hosts).write 0 ++ ['\n']
  | _ =>
    let server : List Text := if f = .unbound then ["server:"] else []
    textOfLines (headerLines f o hosts.length ++ server ++ hosts.map (hostLine f o))

/-- The document for the hostnames of a list. -/
def render (f : Format) (o : Options) (lines : List Text) : Text := document f o (canonical lines)

/-- The list itself as a text that ends with a line feed, unless it is empty. -/
def listText (lines : List Text) : Text :=
  let s := Text.join ['\n'] lines
  if s = [] || s.getLast? = some '\n' then s else s ++ ['\n']

/-- The file that a compiled list becomes: the list itself, or a document with a header. -/
def file (f : Format) (o : Options) (lines : List Text) : Text :=
  match f with
  | .adblock => listText lines
  | _ => render f { o with header := true } lines

end Output
end Blocklist
