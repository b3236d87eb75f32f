/-!
# IP addresses and socket addresses

A socket address is written `a.b.c.d:port` for IPv4 and `[ipv6%scope]:port` for IPv6, with the
scope optional. An IPv4 part is a decimal of at most three digits below 256 and without a
leading zero; an IPv6 group is at most four hex digits. An IPv6 address is eight groups, or
fewer with one `::` standing for the missing zero groups; its last two groups may be written as
an IPv4 address, but not before the `::`. A port is any decimal below 65536, leading zeros
allowed. The whole text must be used.

An IPv6 address is shown in its shortest form: lowercase hex without leading zeros, and the
first longest run of two or more zero groups as `::`. An IPv4-mapped address keeps the dotted
form after `::ffff:`.
-/

namespace FirmwareRedirect.Net

/-- An IPv4 address. -/
structure Ipv4Addr where
  a : UInt8
  b : UInt8
  c : UInt8
  d : UInt8
  deriving DecidableEq, Repr

/-- An IPv6 address: eight 16-bit groups. -/
structure Ipv6Addr where
  groups : Vector UInt16 8
  deriving DecidableEq, Repr

/-- An IP address of either family. -/
inductive IpAddr where
  | v4 (addr : Ipv4Addr)
  | v6 (addr : Ipv6Addr)
  deriving DecidableEq, Repr

/-- A socket address: an IP address and a port; an IPv6 one may carry a scope. -/
structure SocketAddr where
  ip : IpAddr
  port : UInt16
  scope : Nat := 0
  deriving DecidableEq, Repr

/-! ## Reading -/

/-- The value of a digit in a radix of ten or sixteen. -/
def digitValue (radix : Nat) (c : Char) : Option Nat :=
  if '0' ≤ c && c ≤ '9' then some (c.toNat - '0'.toNat)
  else if radix = 16 && 'a' ≤ c && c ≤ 'f' then some (c.toNat - 'a'.toNat + 10)
  else if radix = 16 && 'A' ≤ c && c ≤ 'F' then some (c.toNat - 'A'.toNat + 10)
  else none

/-- The longest run of digits at the front, with their values. -/
def digitRun (radix : Nat) : List Char → List Nat × List Char
  | [] => ([], [])
  | c :: cs =>
    match digitValue radix c with
    | some v => let r := digitRun radix cs; (v :: r.1, r.2)
    | none => ([], c :: cs)

/-- The value of digits, most significant first. -/
def digitsValue (radix : Nat) (ds : List Nat) : Nat := ds.foldl (fun n d => n * radix + d) 0

/-- Read a number at the front: all the digits there, at least one, at most `maxDigits` of
them when given, with a value at most `bound`, and without a leading zero unless allowed. -/
def readNumber (radix : Nat) (maxDigits : Option Nat) (zeroPrefix : Bool) (bound : Nat)
    (cs : List Char) : Option (Nat × List Char) :=
  let (ds, rest) := digitRun radix cs
  let v := digitsValue radix ds
  if ds.isEmpty then none
  else if maxDigits.any (ds.length > ·) then none
  else if v > bound then none
  else if !zeroPrefix && ds.head? = some 0 && ds.length > 1 then none
  else some (v, rest)

/-- Read an item, after a separator unless it is the first. -/
def separated {α : Type} (sep : Char) (first : Bool) (item : List Char → Option (α × List Char))
    (cs : List Char) : Option (α × List Char) :=
  if first then item cs
  else
    match cs with
    | c :: rest => if c = sep then item rest else none
    | [] => none

/-- Read an IPv4 address at the front. -/
def readIpv4 (cs : List Char) : Option (Ipv4Addr × List Char) := do
  let part (first : Bool) := separated '.' first (readNumber 10 (some 3) false 255)
  let (a, cs) ← part true cs
  let (b, cs) ← part false cs
  let (c, cs) ← part false cs
  let (d, cs) ← part false cs
  pure (⟨a.toUInt8, b.toUInt8, c.toUInt8, d.toUInt8⟩, cs)

/-- The two groups an IPv4 address fills at the end of an IPv6 address. -/
def Ipv4Addr.groups (v : Ipv4Addr) : List Nat :=
  [v.a.toNat * 256 + v.b.toNat, v.c.toNat * 256 + v.d.toNat]

/-- Read up to `room` colon-separated groups at the front, `read` of them already. The last two
may be an IPv4 address, which ends the run; the flag says whether one was read. -/
def readGroups : (room read : Nat) → List Nat → List Char → List Nat × Bool × List Char
  | 0, _, acc, cs => (acc.reverse, false, cs)
  | room + 1, read, acc, cs =>
    let v4 := if room ≥ 1 then separated ':' (read = 0) readIpv4 cs else none
    match v4 with
    | some (v, rest) => (acc.reverse ++ v.groups, true, rest)
    | none =>
      match separated ':' (read = 0) (readNumber 16 (some 4) true 0xFFFF) cs with
      | some (g, rest) => readGroups room (read + 1) (g :: acc) rest
      | none => (acc.reverse, false, cs)

/-- Eight groups as an address. -/
def Ipv6Addr.ofGroups (gs : List Nat) : Ipv6Addr :=
  ⟨Vector.ofFn fun i => (gs.getD i.val 0).toUInt16⟩

/-- Read an IPv6 address at the front. -/
def readIpv6 (cs : List Char) : Option (Ipv6Addr × List Char) :=
  let (head, headV4, rest) := readGroups 8 0 [] cs
  if head.length = 8 then some (.ofGroups head, rest)
  else if headV4 then none
  else
    match rest with
    | ':' :: ':' :: rest =>
      let (tail, _, rest) := readGroups (7 - head.length) 0 [] rest
      some (.ofGroups (head ++ List.replicate (8 - head.length - tail.length) 0 ++ tail), rest)
    | _ => none

/-- Read a port after its colon. -/
def readPort : List Char → Option (UInt16 × List Char)
  | ':' :: cs => (readNumber 10 none true 0xFFFF cs).map fun (p, r) => (p.toUInt16, r)
  | _ => none

/-- Read an IPv4 socket address that is the whole text. -/
def readSocketV4 (cs : List Char) : Option SocketAddr := do
  let (ip, cs) ← readIpv4 cs
  let (port, cs) ← readPort cs
  if cs.isEmpty then pure ⟨.v4 ip, port, 0⟩ else none

/-- Read an optional scope after `%`; without one, or when no number follows, the text is
left as it is. -/
def readScope : List Char → Nat × List Char
  | '%' :: cs =>
    match readNumber 10 none true 0xFFFFFFFF cs with
    | some (s, rest) => (s, rest)
    | none => (0, '%' :: cs)
  | cs => (0, cs)

/-- Read an IPv6 socket address that is the whole text. -/
def readSocketV6 (cs : List Char) : Option SocketAddr :=
  match cs with
  | '[' :: cs => do
    let (ip, cs) ← readIpv6 cs
    let (scope, cs) := readScope cs
    match cs with
    | ']' :: cs =>
      let (port, cs) ← readPort cs
      if cs.isEmpty then pure ⟨.v6 ip, port, scope⟩ else none
    | _ => none
  | _ => none

/-- Why a socket address could not be read. -/
def socketAddrSyntaxError : String := "invalid socket address syntax"

/-- Read a socket address: IPv4 first, then IPv6. -/
def SocketAddr.parse? (s : String) : Option SocketAddr :=
  (readSocketV4 s.toList).orElse fun _ => readSocketV6 s.toList

/-! ## Showing -/

/-- `a.b.c.d` -/
def Ipv4Addr.text (v : Ipv4Addr) : String :=
  toString v.a.toNat ++ "." ++ toString v.b.toNat ++ "." ++ toString v.c.toNat ++ "." ++
    toString v.d.toNat

/-- A group in lowercase hex without leading zeros. -/
def groupText (g : UInt16) : String := String.ofList (Nat.toDigits 16 g.toNat)

/-- Groups joined by colons. -/
def groupsText (gs : List UInt16) : String := ":".intercalate (gs.map groupText)

/-- The first longest run of zero groups: its start and length. -/
def longestZeroRun (gs : List UInt16) : Nat × Nat :=
  let step := fun (acc : (Nat × Nat) × (Nat × Nat) × Nat) (g : UInt16) =>
    let (best, cur, i) := acc
    if g = 0 then
      let cur := if cur.2 = 0 then (i, 1) else (cur.1, cur.2 + 1)
      (if cur.2 > best.2 then cur else best, cur, i + 1)
    else (best, (0, 0), i + 1)
  (gs.foldl step ((0, 0), (0, 0), 0)).1

/-- The IPv4 address an IPv4-mapped IPv6 address holds. -/
def Ipv6Addr.mapped? (v : Ipv6Addr) : Option Ipv4Addr :=
  match v.groups.toList with
  | [0, 0, 0, 0, 0, 0xFFFF, hi, lo] =>
    some ⟨(hi >>> 8).toUInt8, hi.toUInt8, (lo >>> 8).toUInt8, lo.toUInt8⟩
  | _ => none

/-- The shortest form of an IPv6 address. -/
def Ipv6Addr.text (v : Ipv6Addr) : String :=
  match v.mapped? with
  | some v4 => "::ffff:" ++ v4.text
  | none =>
    let gs := v.groups.toList
    let (start, len) := longestZeroRun gs
    if len > 1 then groupsText (gs.take start) ++ "::" ++ groupsText (gs.drop (start + len))
    else groupsText gs

/-- The text of an IP address. -/
def IpAddr.text : IpAddr → String
  | .v4 v => v.text
  | .v6 v => v.text

end FirmwareRedirect.Net
