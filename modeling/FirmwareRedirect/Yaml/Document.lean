import FirmwareRedirect.Yaml.Parser
/-!
# YAML documents as event lists

A document is the list of events between its start and end, with each alias pointing at the
event that carries its anchor. An anchor may be defined again; an alias refers to the latest
definition before it. An empty stream reads as one document holding a single empty event.

Reading stops at the first error. The events read before it are kept with the error, so that
a reader of the document meets the error only when it gets that far.

Before any of this, every character must be one YAML allows; otherwise the text is rejected
with the byte offset of the first bad one.
-/

namespace FirmwareRedirect.Yaml

/-- An event of a loaded document. -/
inductive DocEvent where
  /-- An alias, as the index of the event it refers to. -/
  | alias (target : Nat)
  | scalar (tag : Option Tag) (value : String) (style : ScalarStyle)
  | sequenceStart
  | sequenceEnd
  | mappingStart
  | mappingEnd
  /-- The only event of an empty stream. -/
  | empty
  deriving Repr, Inhabited

/-- Why a document could not be read to its end. -/
inductive LoadError where
  | malformed (e : YamlError)
  | unknownAnchor (m : Mark)
  deriving Repr, Inhabited

/-- A loaded document. -/
structure Document where
  events : Array (DocEvent × Mark)
  error : Option LoadError
  deriving Inhabited

/-- The loader between documents: the parser, or nothing once the stream has ended or
failed. -/
structure Loader where
  parser : Option Parser
  count : Nat

/-- Record an anchor at the next event's index. -/
def noteAnchor (anchors : List (String × Nat)) (anchor : Option String) (index : Nat) :
    List (String × Nat) :=
  match anchor with
  | some a => (a, index) :: anchors
  | none => anchors

/-- Read events into a document until it ends. -/
def collectEvents (first : Bool) : Nat → Parser → List (String × Nat) → Array (DocEvent × Mark) →
    Option Document × Option Parser
  | 0, _, _, evs => (some ⟨evs, none⟩, none)
  | n + 1, p, anchors, evs =>
    match nextEvent.run p with
    | .error e => (some ⟨evs, some (.malformed e)⟩, none)
    | .ok (ev, p) =>
      let m := ev.start
      match ev.kind with
      | .streamStart | .documentStart => collectEvents first n p anchors evs
      | .streamEnd =>
        if first then
          (some ⟨if evs.isEmpty then #[(.empty, m)] else evs, none⟩, none)
        else (none, none)
      | .documentEnd => (some ⟨evs, none⟩, some p)
      | .alias name =>
        match anchors.lookup name with
        | some i => collectEvents first n p anchors (evs.push (.alias i, m))
        | none => (some ⟨evs, some (.unknownAnchor m)⟩, none)
      | .scalar anchor tag value style =>
        collectEvents first n p (noteAnchor anchors anchor evs.size)
          (evs.push (.scalar tag value style, m))
      | .sequenceStart anchor _ =>
        collectEvents first n p (noteAnchor anchors anchor evs.size) (evs.push (.sequenceStart, m))
      | .sequenceEnd => collectEvents first n p anchors (evs.push (.sequenceEnd, m))
      | .mappingStart anchor _ =>
        collectEvents first n p (noteAnchor anchors anchor evs.size) (evs.push (.mappingStart, m))
      | .mappingEnd => collectEvents first n p anchors (evs.push (.mappingEnd, m))

/-- The next document of the stream, if there is one. -/
def Loader.nextDocument (l : Loader) : Option Document × Loader :=
  match l.parser with
  | none => (none, l)
  | some p =>
    let fuel := 8 * (p.scanner.input.size + 4)
    let (doc, p') := collectEvents (l.count == 0) fuel p [] #[]
    (doc, ⟨p', l.count + 1⟩)

/-- The first character YAML does not allow, with its byte offset. -/
def firstBadChar : List Char → Nat → Option (Char × Nat)
  | [], _ => none
  | c :: cs, offset =>
    if isAllowedChar c then firstBadChar cs (offset + (String.singleton c).utf8ByteSize)
    else some (c, offset)

/-- Start loading a text, or reject it for a character YAML does not allow. -/
def Loader.start (text : String) : Except YamlError Loader :=
  match firstBadChar text.toList 0 with
  | some (_, offset) => .error ⟨"control characters are not allowed", Mark.origin, offset, none⟩
  | none => .ok ⟨some (Parser.start text.toList.toArray), 0⟩

end FirmwareRedirect.Yaml
