/-!
# Events

What the compiler reports while it works: the event, how much it matters, its message and its
details.
-/

namespace TagSchema

/-- How much an event matters. -/
inductive EventLevel where
  | trace
  | debug
  | info
deriving DecidableEq, Repr

/-- Something the compiler did or passed over. -/
inductive Event where
  | catalogValidated (enums bitfields structs : Nat)
  | definitionsLoaded (files definitions : Nat) (dir : String)
  | fieldElided (struct field : String)
  | modifiersIgnored (struct field : String)
  | exclusionsIgnored (struct field : String)
  | alreadyEmitted (struct : String)
  | structEmitted (fields : Nat)
  | codeGenerated (structs exclusions : Nat)
  | filesCreated (dir : String)
deriving DecidableEq, Repr

namespace Event

/-- How much an event matters. -/
def level : Event → EventLevel
  | fieldElided _ _ => .trace
  | definitionsLoaded _ _ _ => .info
  | codeGenerated _ _ => .info
  | _ => .debug

/-- The message of an event. -/
def message : Event → String
  | catalogValidated _ _ _ => "catalog validated"
  | definitionsLoaded _ _ _ => "loaded definitions"
  | fieldElided _ _ => "elided field"
  | modifiersIgnored _ _ => "modifiers ignored on dependency"
  | exclusionsIgnored _ _ => "exclusions ignored on field that is neither enum nor bitfield"
  | alreadyEmitted _ => "struct already emitted"
  | structEmitted _ => "emitted struct"
  | codeGenerated _ _ => "generated code"
  | filesCreated _ => "created artifact files"

/-- The details of an event, by name. -/
def details : Event → List (String × String)
  | catalogValidated enums bitfields structs =>
    [("enums", toString enums), ("bitfields", toString bitfields), ("structs", toString structs)]
  | definitionsLoaded files definitions dir =>
    [("files", toString files), ("definitions", toString definitions), ("dir", dir)]
  | fieldElided struct field => [("struct_name", struct), ("field", field)]
  | modifiersIgnored struct field => [("struct_name", struct), ("field", field)]
  | exclusionsIgnored struct field => [("struct_name", struct), ("field", field)]
  | alreadyEmitted struct => [("struct_name", struct)]
  | structEmitted fields => [("fields", toString fields)]
  | codeGenerated structs exclusions =>
    [("structs", toString structs), ("exclusions", toString exclusions)]
  | filesCreated dir => [("dir", dir)]

end Event
end TagSchema
