import FirmwareRedirect.Yaml.Scanner.State
/-!
# Scanning YAML anchors, tags and directives

Anchors and aliases are names of letters, digits, `_` and `-`. A tag is written `!suffix`,
`!handle!suffix` or `!<verbatim>`; its suffix is a URI whose `%XX` escapes stand for the bytes
of one UTF-8 character each. Directives (`%YAML 1.2`, `%TAG !e! prefix`) stand on lines of
their own before a document.
-/

namespace FirmwareRedirect.Yaml

open Scan

/-- Scan an anchor (`&name`) or an alias (`*name`). -/
def scanAnchor (isAlias : Bool) : Scan Token := do
  let start ← mark
  skip
  let name ← readWhile isWordChar "" (← budget)
  let stop ← mark
  let c ← cur
  let ends := isBlankEnd c || c == '?' || c == ':' || c == ',' || c == ']' || c == '}' ||
    c == '%' || c == '@' || c == '\x60'
  if name.isEmpty || !ends then
    fail (if isAlias then "while scanning an alias" else "while scanning an anchor") start
      "did not find expected alphabetic or numeric character"
  pure ⟨if isAlias then .alias name else .anchor name, start, stop⟩

/-- The bytes of a character, for tags built from text. -/
def charBytes (c : Char) : List UInt8 := (String.singleton c).toUTF8.toList

/-- The length of the UTF-8 sequence a leading byte starts, or zero when it cannot lead. -/
def utf8Width (b : Nat) : Nat :=
  if b &&& 0x80 == 0 then 1
  else if b &&& 0xE0 == 0xC0 then 2
  else if b &&& 0xF0 == 0xE0 then 3
  else if b &&& 0xF8 == 0xF0 then 4
  else 0

/-- The context of tag errors. -/
def tagContext (directive : Bool) : String :=
  if directive then "while parsing a %TAG directive" else "while parsing a tag"

/-- Read the `%XX` escapes of one UTF-8 character. -/
def uriEscapes (directive : Bool) (start : Mark) : Nat → Nat → List UInt8 → Scan (List UInt8)
  | 0, _, acc => pure acc
  | n + 1, width, acc => do
    let c0 ← peekAt 0
    let c1 ← peekAt 1
    let c2 ← peekAt 2
    if !(c0 == '%' && isHexDigit c1 && isHexDigit c2) then
      fail (tagContext directive) start "did not find URI escaped octet"
    let octet := hexValue c1 * 16 + hexValue c2
    let width ←
      if width == 0 then
        let w := utf8Width octet
        if w == 0 then fail (tagContext directive) start "found an incorrect leading UTF-8 octet"
        pure w
      else
        if octet &&& 0xC0 != 0x80 then
          fail (tagContext directive) start "found an incorrect trailing UTF-8 octet"
        pure width
    skipN 3
    let acc := acc ++ [octet.toUInt8]
    if width ≤ 1 then pure acc else uriEscapes directive start n (width - 1) acc

/-- Whether a character may appear in a tag URI; `,`, `[` and `]` only inside `!<...>`. -/
def isUriChar (verbatim : Bool) (c : Char) : Bool :=
  isWordChar c || ";/?:@&=+$.%!~*'()".contains c || (verbatim && (c == ',' || c == '[' || c == ']'))

/-- Read URI characters onto `acc`, counting them. -/
def uriChars (verbatim directive : Bool) (start : Mark) :
    Nat → List UInt8 → Nat → Scan (List UInt8 × Nat)
  | 0, acc, len => pure (acc, len)
  | n + 1, acc, len => do
    let c ← cur
    if !isUriChar verbatim c then return (acc, len)
    if c == '%' then
      let acc ← uriEscapes directive start 4 0 acc
      uriChars verbatim directive start n acc (len + 1)
    else
      skip
      uriChars verbatim directive start n (acc ++ charBytes c) (len + 1)

/-- Read a tag URI. `head` is a tag handle read before it turned out to be part of the URI:
its text after the `!` begins the URI, and it counts towards the URI being non-empty. -/
def scanTagUri (verbatim directive : Bool) (head : List UInt8) (start : Mark) :
    Scan (List UInt8) := do
  let (uri, len) ← uriChars verbatim directive start (← budget) (head.drop 1) head.length
  if len == 0 then fail (tagContext directive) start "did not find expected tag URI"
  pure uri

/-- Read a tag handle: `!`, then letters, then `!` if there is one. -/
def scanTagHandle (directive : Bool) (start : Mark) : Scan (List UInt8) := do
  if (← cur) != '!' then
    fail (if directive then "while scanning a tag directive" else "while scanning a tag") start
      "did not find expected '!'"
  skip
  let name ← readWhile isWordChar "!" (← budget)
  if (← cur) == '!' then
    skip
    pure (name.push '!').toUTF8.toList
  else
    if directive && name != "!" then
      fail "while parsing a tag directive" start "did not find expected '!'"
    pure name.toUTF8.toList

/-- Scan a tag. -/
def scanTag : Scan Token := do
  let start ← mark
  let (handle, suffix) ←
    if (← peekAt 1) == '<' then do
      skipN 2
      let suffix ← scanTagUri true false [] start
      if (← cur) != '>' then fail "while scanning a tag" start "did not find the expected '>'"
      skip
      pure ([], suffix)
    else do
      let handle ← scanTagHandle false start
      if handle.length > 1 && handle.head? == some 33 && handle.getLast? == some 33 then
        let suffix ← scanTagUri false false [] start
        pure (handle, suffix)
      else
        let suffix ← scanTagUri false false handle start
        if suffix.isEmpty then pure ([], [33]) else pure ([33], suffix)
  let c ← cur
  if !isBlankEnd c && !((← get).flowLevel > 0 && c == ',') then
    fail "while scanning a tag" start "did not find expected whitespace or line break"
  pure ⟨.tag handle suffix, start, ← mark⟩

/-- Read one part of a version number, at most nine digits. -/
def versionNumber (start : Mark) : Nat → Nat → Nat → Scan Nat
  | 0, value, _ => pure value
  | n + 1, value, len => do
    let c ← cur
    if !c.isDigit then
      if len == 0 then
        fail "while scanning a %YAML directive" start "did not find expected version number"
      return value
    if len + 1 > 9 then
      fail "while scanning a %YAML directive" start "found extremely long version number"
    skip
    versionNumber start n (value * 10 + (c.toNat - '0'.toNat)) (len + 1)

/-- Scan a directive line. -/
def scanDirective : Scan Token := do
  let start ← mark
  skip
  let name ← readWhile isWordChar "" (← budget)
  if name.isEmpty then
    fail "while scanning a directive" start "could not find expected directive name"
  if !isBlankEnd (← cur) then
    fail "while scanning a directive" start "found unexpected non-alphabetical character"
  let kind ←
    if name == "YAML" then do
      skipWhile isBlank (← budget)
      let major ← versionNumber start (← budget) 0 0
      if (← cur) != '.' then
        fail "while scanning a %YAML directive" start "did not find expected digit or '.' character"
      skip
      let minor ← versionNumber start (← budget) 0 0
      pure (TokenKind.versionDirective major minor)
    else if name == "TAG" then do
      skipWhile isBlank (← budget)
      let handle ← scanTagHandle true start
      if !isBlank (← cur) then
        fail "while scanning a %TAG directive" start "did not find expected whitespace"
      skipWhile isBlank (← budget)
      let pfx ← scanTagUri true true [] start
      if !isBlankEnd (← cur) then
        fail "while scanning a %TAG directive" start "did not find expected whitespace or line break"
      pure (TokenKind.tagDirective handle pfx)
    else fail "while scanning a directive" start "found unknown directive name"
  let stop ← mark
  skipWhile isBlank (← budget)
  if (← cur) == '#' then skipWhile (fun c => !isBreakEnd c) (← budget)
  if !isBreakEnd (← cur) then
    fail "while scanning a directive" start "did not find expected comment or line break"
  if isBreak (← cur) then skipLine
  pure ⟨kind, start, stop⟩

end FirmwareRedirect.Yaml
