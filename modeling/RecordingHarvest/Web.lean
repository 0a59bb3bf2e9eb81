import RecordingHarvest.Number.Digits

/-!
# Addresses and status codes

The addresses that requests go to: the asterisk, a path, an authority alone, or a scheme with an
authority and a path behind it.  Whether an address leads anywhere is for the network to say;
`Address.ofText?` only refuses what no request can be written for.  The response opens with a
number, for which there is a standard phrase.
-/

namespace RecordingHarvest
namespace Web

/-- An address, in its parts. -/
structure Address where
  scheme : Option String
  authority : Option String
  /-- The path with the query, without the fragment. -/
  path : String
  deriving DecidableEq, Repr

namespace Address

/-- The most bytes an address may take. -/
def lengthLimit : Nat := 65534

/-- The longest name of a scheme. -/
def schemeLimit : Nat := 64

/-- The most colons in a row of address groups. -/
def colonLimit : Nat := 8

/-- The characters of a scheme. -/
def isSchemeChar (c : Char) : Bool := c.isAlphanum || ['+', '-', '.', '~'].contains c

/-- The characters that close an authority. -/
def endsAuthority (c : Char) : Bool := c == '/' || c == '?' || c == '#'

/-- The plain characters of an authority. -/
def isAuthorityChar (c : Char) : Bool := c.isAlphanum || "!$&'()*+,-.;=_~".toList.contains c

/-- What has been seen of an authority. -/
structure Seen where
  /-- The colons since the last bracket or at sign. -/
  colons : Nat := 0
  opened : Bool := false
  closed : Bool := false
  /-- A percent sign since the last bracket or at sign. -/
  percent : Bool := false
  /-- The last character is an at sign. -/
  atSign : Bool := false
  deriving DecidableEq, Repr

/-- Takes one more character of an authority in. -/
def Seen.next? (s : Seen) (c : Char) : Option Seen :=
  let s := { s with atSign := false }
  if c = ':' then if s.colons < colonLimit then some { s with colons := s.colons + 1 } else none
  else if c = '[' then if s.percent || s.opened then none else some { s with opened := true }
  else if c = ']' then
    if !s.opened || s.closed then none
    else some { s with closed := true, colons := 0, percent := false }
  else if c = '@' then some { s with colons := 0, percent := false, atSign := true }
  else if c = '%' then some { s with percent := true }
  else if isAuthorityChar c then some s
  else none

/-- Whether an authority may end here: its brackets match, one colon at most stands before a port,
something follows the user's name, and only that or an address in brackets holds percent signs. -/
def Seen.complete (s : Seen) : Bool :=
  s.opened == s.closed && s.colons ≤ 1 && !s.atSign && !s.percent

/-- Splits an authority off. -/
def splitAuthority? (cs : List Char) : Option (List Char × List Char) := do
  let authority := cs.takeWhile (!endsAuthority ·)
  let seen ← authority.foldlM Seen.next? {}
  if seen.complete then some (authority, cs.drop authority.length) else none

/-- The characters of a path that need no escape, and three that are let pass.  Those beyond ASCII pass if
`wide`. -/
def isPathChar (wide : Bool) (c : Char) : Bool :=
  let n := c.toNat
  n == 0x21 || (0x24 ≤ n && n ≤ 0x3B) || n == 0x3D || (0x40 ≤ n && n ≤ 0x5F) ||
    (0x61 ≤ n && n ≤ 0x7A) || n == 0x7C || n == 0x7E || n == 0x22 || n == 0x7B || n == 0x7D ||
    (wide && 0x80 ≤ n)

/-- The characters of a query. -/
def isQueryChar (wide : Bool) (c : Char) : Bool :=
  let n := c.toNat
  n == 0x21 || (0x24 ≤ n && n ≤ 0x3B) || n == 0x3D || (0x3F ≤ n && n ≤ 0x7E) || (wide && 0x80 ≤ n)

/-- A path with its query; a fragment is dropped. -/
def path? (wide : Bool) (cs : List Char) : Option String :=
  let text := cs.takeWhile (· != '#')
  let path := text.takeWhile (· != '?')
  let query := text.drop (path.length + 1)
  if path.all (isPathChar wide) && query.all (isQueryChar wide) then some (String.ofList text)
  else none

/-- Splits a scheme off, if there is one; a name that is too long is refused. -/
def splitScheme? (cs : List Char) : Option (Option String × List Char) :=
  let name := cs.takeWhile isSchemeChar
  match cs.drop name.length with
  | ':' :: '/' :: '/' :: rest =>
    if cs.length ≤ 3 then some (none, cs)
    else if schemeLimit < name.length then none
    else
      let lowered := String.ofList (name.map Char.toLower)
      some (some (if lowered == "http" || lowered == "https" then lowered else String.ofList name), rest)
  | _ => some (none, cs)

/-- The address that a text spells. -/
def ofText? (wide : Bool) (s : String) : Option Address :=
  if lengthLimit < s.utf8ByteSize then none
  else
    match s.toList with
    | [] => none
    | ['*'] => some ⟨none, none, "*"⟩
    | '/' :: rest => (path? wide ('/' :: rest)).map (⟨none, none, ·⟩)
    | cs => do
      let (scheme, rest) ← splitScheme? cs
      let (authority, rest) ← splitAuthority? rest
      match scheme with
      | none => if rest.isEmpty then some ⟨none, some (String.ofList authority), ""⟩ else none
      | some _ =>
        if authority.isEmpty then none
        else
          let path ← path? wide rest
          some ⟨scheme, some (String.ofList authority), path⟩

end Address

/-! ## Status codes -/

/-- The standard phrases for the numbers that open a response. -/
def reasons : List (Nat × String) :=
  [(100, "Continue"), (101, "Switching Protocols"), (102, "Processing"), (200, "OK"),
    (201, "Created"), (202, "Accepted"), (203, "Non Authoritative Information"),
    (204, "No Content"), (205, "Reset Content"), (206, "Partial Content"), (207, "Multi-Status"),
    (208, "Already Reported"), (226, "IM Used"), (300, "Multiple Choices"),
    (301, "Moved Permanently"), (302, "Found"), (303, "See Other"), (304, "Not Modified"),
    (305, "Use Proxy"), (307, "Temporary Redirect"), (308, "Permanent Redirect"),
    (400, "Bad Request"), (401, "Unauthorized"), (402, "Payment Required"), (403, "Forbidden"),
    (404, "Not Found"), (405, "Method Not Allowed"), (406, "Not Acceptable"),
    (407, "Proxy Authentication Required"), (408, "Request Timeout"), (409, "Conflict"),
    (410, "Gone"), (411, "Length Required"), (412, "Precondition Failed"),
    (413, "Payload Too Large"), (414, "URI Too Long"), (415, "Unsupported Media Type"),
    (416, "Range Not Satisfiable"), (417, "Expectation Failed"), (418, "I'm a teapot"),
    (421, "Misdirected Request"), (422, "Unprocessable Entity"), (423, "Locked"),
    (424, "Failed Dependency"), (426, "Upgrade Required"), (428, "Precondition Required"),
    (429, "Too Many Requests"), (431, "Request Header Fields Too Large"),
    (451, "Unavailable For Legal Reasons"), (500, "Internal Server Error"),
    (501, "Not Implemented"), (502, "Bad Gateway"), (503, "Service Unavailable"),
    (504, "Gateway Timeout"), (505, "HTTP Version Not Supported"),
    (506, "Variant Also Negotiates"), (507, "Insufficient Storage"), (508, "Loop Detected"),
    (510, "Not Extended"), (511, "Network Authentication Required")]

/-- A code with its phrase. -/
def statusText (code : Nat) : String :=
  Number.naturalText code ++ " " ++ (reasons.lookup code).getD "<unknown status code>"

/-- Whether a code says that the request was accepted. -/
def isSuccess (code : Nat) : Bool := 200 ≤ code && code < 300

end Web
end RecordingHarvest
