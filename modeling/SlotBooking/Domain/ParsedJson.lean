import SlotBooking.Domain.Text

/-! Values of `JSON.parse`, over the numbers `N` of the platform. -/
namespace SlotBooking

inductive ParsedJson (N : Type) where
  | null
  | boolean (b : Bool)
  | number (n : N)
  | string (s : JsString)
  | array (elements : List (ParsedJson N))
  | object (members : List (JsString × ParsedJson N))

variable {N : Type}

def ParsedJson.property (name : JsString) : ParsedJson N → Option (ParsedJson N)
  | .object members => members.lookup name
  | _ => none

def ParsedJson.string? : ParsedJson N → Option JsString
  | .string s => some s
  | _ => none

end SlotBooking
