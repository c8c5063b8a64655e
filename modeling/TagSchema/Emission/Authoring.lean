import TagSchema.Emission.Step

/-!
# Authoring data

Structs are authored in a big-endian form. The base of a struct has a fixed size and comes first;
what its fields store behind it trails in field order. Writing leaves hidden fields zero unless they
are revealed; bits that only cache data carries are cleared on the way out and on the way in.
-/

namespace TagSchema
namespace Emission
namespace Authoring

/-- The byte order of authoring data. -/
def byteOrder : String := "BigEndian"

/-! ## Writing -/

/-- How a field is put into the base. -/
inductive BaseWrite where
  | convert (isArray : Bool)
  | clear (mask : Mask)
  | dependency
  | data
  | reflexive
deriving DecidableEq, Repr

/-- What is written behind the base for a field. -/
inductive TrailingWrite where
  | dependency
  | data
  | reflexive
deriving DecidableEq, Repr

/-- What the methods that write do with a field: a step into the base, and one behind it unless the
field is stored inside. -/
structure FieldWrite where
  base : Step BaseWrite
  trailing : Option (Step TrailingWrite) := none
deriving DecidableEq, Repr

/-- What the methods that write do with a field. The bits that only cache data carries are cleared
before a bitfield without wrappers is converted. -/
def fieldWrite (field : AnnotatedField) : FieldWrite :=
  if isInline field && field.cacheOnlyMask ≠ 0 && field.type.isPlain then
    { base := .each field (.clear field.cacheOnlyMask) }
  else if isInline field then
    { base := .whole field (.convert field.type.arrayLength?.isSome) }
  else if field.type.isDependency then
    { base := .each field .dependency, trailing := some (.each field .dependency) }
  else if field.type.isData then
    { base := .each field .data, trailing := some (.each field .data) }
  else
    { base := .each field .reflexive, trailing := some (.each field .reflexive) }

/-- The fields that are written. -/
def writtenFields (s : Subject) : List AnnotatedField :=
  s.fields.filter s.isVisible

/-- The body of the method that makes the base. -/
def baseWriteBody (s : Subject) : List (Piece BaseWrite) :=
  [.text ("let mut base = <" ++ s.wireType byteOrder ++ ">::default();\n")] ++
    (writtenFields s).map (fun field => .step (fieldWrite field).base) ++
    [.text "base\n"]

/-- How a field is put into the base. -/
def writeBaseWrite (action : BaseWrite) (place : Place) : String :=
  let start := place.of "base" ++ " = "
  match action with
  | .convert isArray => convert isArray place "base" "self"
  | .clear mask =>
    render (line ("let mut bits = " ++ place.own ++ ";") ++
      line ("bits.retain_bits(!" ++ maskLiteral mask ++ ");") ++
      line (start ++ "bits.into();"))
  | .dependency => start ++ place.own ++ ".hek_base();\n"
  | .data => start ++ "hek::DataOffset::with_size(" ++ place.own ++ ".len());\n"
  | .reflexive => start ++ "hek::Reflexive::with_count(" ++ place.own ++ ".len());\n"

/-- The body of the method that writes what trails the base. -/
def trailingWriteBody (s : Subject) : List (Piece TrailingWrite) :=
  ((writtenFields s).filterMap fun field => (fieldWrite field).trailing).map .step

/-- How what trails the base is written: of a nested sequence first all bases, then what trails
each. -/
def writeTrailingWrite (action : TrailingWrite) (place : Place) : String :=
  match action with
  | .dependency => place.own ++ ".write_hek_path(out);\n"
  | .data => "out.extend_from_slice(&" ++ place.own ++ ");\n"
  | .reflexive =>
    let head := "for element in &" ++ place.own
    render (
      block head (line "out.extend_from_slice(hek::as_bytes(&element.generate_hek_base()));") ++
      block head (line "element.generate_hek_trailing(out);"))

/-- The method that writes a struct without a file header. -/
def dataWriter : String :=
  method "pub fn generate_hek_tag_data(&self) -> Vec<u8>" (render (
    line "let mut out = Vec::new();" ++
    line "out.extend_from_slice(hek::as_bytes(&self.generate_hek_base()));" ++
    line "self.generate_hek_trailing(&mut out);" ++
    line "out"))

/-- The method that writes a struct as a file. -/
def fileWriter : String :=
  method "pub fn generate_hek_tag_file(&self, fourcc: TagFourCC) -> Vec<u8>" (render (
    line "let data = self.generate_hek_tag_data();" ++
    line "let mut file = hek::TagFileHeader::new(fourcc, hek::crc32(&data)).to_bytes();" ++
    line "file.extend_from_slice(&data);" ++
    line "file"))

/-- The code that writes a struct. -/
def write (s : Subject) : String :=
  implFor s [
    method ("pub fn generate_hek_base(&self) -> " ++ s.wireType byteOrder)
      (Piece.renderAll writeBaseWrite (baseWriteBody s)),
    method "pub fn generate_hek_trailing(&self, out: &mut Vec<u8>)"
      (Piece.renderAll writeTrailingWrite (trailingWriteBody s)),
    dataWriter,
    fileWriter]

/-! ## Reading -/

/-- How a field is taken out of the base. -/
inductive BaseRead where
  | convert (isArray : Bool)
  | clear (mask : Mask)
deriving DecidableEq, Repr

/-- What is read from behind the base for a field. -/
inductive TrailingRead where
  | dependency
  | data
  | reflexive (ident : String)
deriving DecidableEq, Repr

/-- What the methods that read do with a field: steps that take it out of the base, and one that reads
it from behind the base. -/
structure FieldRead where
  base : List (Step BaseRead) := []
  trailing : Option (Step TrailingRead) := none
deriving DecidableEq, Repr

/-- What the methods that read do with a field. The bits that only cache data carries are cleared
after a bitfield without wrappers was converted. -/
def fieldRead (field : AnnotatedField) : FieldRead :=
  if isInline field then
    let clearing : List (Step BaseRead) :=
      if field.cacheOnlyMask ≠ 0 && field.type.isPlain then
        [.each field (.clear field.cacheOnlyMask)]
      else
        []
    { base := .whole field (.convert field.type.arrayLength?.isSome) :: clearing }
  else if field.type.isDependency then
    { trailing := some (.each field .dependency) }
  else if field.type.isData then
    { trailing := some (.each field .data) }
  else
    { trailing := some (.each field (.reflexive ((field.type.reflexive?.map (·.2)).getD ""))) }

/-- The body of the method that reads the base. -/
def baseReadBody (s : Subject) : List (Piece BaseRead) :=
  [.text ("let base: " ++ s.wireType byteOrder ++ " = hek::read_struct(data, cursor)?;\n"),
    .text "let mut value = Self::default();\n"] ++
    s.fields.flatMap (fun field => (fieldRead field).base.map .step) ++
    [.text "Ok((value, base))\n"]

/-- How a field is taken out of the base. -/
def writeBaseRead (action : BaseRead) (place : Place) : String :=
  match action with
  | .convert isArray => convert isArray place "value" "base"
  | .clear mask => place.of "value" ++ ".retain_bits(!" ++ maskLiteral mask ++ ");\n"

/-- The body of the method that reads what trails the base. -/
def trailingReadBody (s : Subject) : List (Piece TrailingRead) :=
  (s.fields.filterMap fun field => (fieldRead field).trailing).map .step ++
    Piece.callWhen "postprocess" s .postprocessHekData "self" "" ++
    [.text "Ok(())\n"]

/-- How the elements of a nested sequence are read: first all bases, then what trails each. -/
def readElements (ident : String) (place : Place) : String :=
  scope (render (
    line ("let count = " ++ place.of "base" ++ ".count();") ++
    line "let mut elements = Vec::with_capacity(count);" ++
    line "let mut bases = Vec::with_capacity(count);" ++
    block "for _ in 0..count" (
      line ("let (element, element_base) = " ++ ident ++ "::parse_hek_base(data, cursor)?;") ++
      line "elements.push(element);" ++
      line "bases.push(element_base);") ++
    block "for (element, element_base) in elements.iter_mut().zip(&bases)" (
      line "element.parse_hek_trailing(element_base, data, cursor, postprocess)?;") ++
    line (place.own ++ " = elements;")))

/-- How what trails the base is read. -/
def writeTrailingRead (action : TrailingRead) (place : Place) : String :=
  match action with
  | .dependency =>
    place.own ++ " = Dependency::read_hek(&" ++ place.of "base" ++ ", data, cursor)?;\n"
  | .data =>
    place.own ++ " = hek::read_bytes(data, cursor, " ++ place.of "base" ++ ".size())?.to_vec();\n"
  | .reflexive ident => readElements ident place

/-- The method that reads a struct without a file header. -/
def dataReader : String :=
  method ("pub fn parse_hek_tag_data(data: &[u8], cursor: &mut usize, postprocess: bool) -> " ++
      "Result<Self, TagError>") (render (
    line "let (mut value, base) = Self::parse_hek_base(data, cursor)?;" ++
    line "value.parse_hek_trailing(&base, data, cursor, postprocess)?;" ++
    line "Ok(value)"))

/-- The code that reads a struct. -/
def read (s : Subject) : String :=
  let wire := s.wireType byteOrder
  implFor s [
    method ("pub fn parse_hek_base(data: &[u8], cursor: &mut usize) -> Result<(Self, " ++ wire ++
        "), TagError>")
      (Piece.renderAll writeBaseRead (baseReadBody s)),
    method ("pub fn parse_hek_trailing(&mut self, base: &" ++ wire ++
        ", data: &[u8], cursor: &mut usize, postprocess: bool) -> Result<(), TagError>")
      (Piece.renderAll writeTrailingRead (trailingReadBody s)),
    dataReader]

/-- The method that reads a struct from a file: its header, the struct, and nothing behind it. -/
def fileReader : String :=
  method "pub fn parse_hek_tag_file(data: &[u8], postprocess: bool) -> Result<Self, TagError>"
    (render (
      line "hek::TagFileHeader::validate(data)?;" ++
      line "let mut cursor = std::mem::size_of::<hek::TagFileHeader>();" ++
      line "let value = Self::parse_hek_tag_data(data, &mut cursor, postprocess)?;" ++
      block "if cursor != data.len()" (
        line ("return Err(TagError::ExtraData \x7b expected: cursor, actual: data.len() \x7d);")) ++
      line "Ok(value)"))

/-- The code that reads a struct from a file. -/
def readFile (s : Subject) : String :=
  implFor s [fileReader]

end Authoring
end Emission
end TagSchema
