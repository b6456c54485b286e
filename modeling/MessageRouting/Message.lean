import MessageRouting.Header

/-!
# Messages

A message has an id, headers, an optional body, named attachments and a fault
flag. A copy is equal to its source, id included.
-/

namespace MessageRouting

/-- The envelope carried by an exchange. A message without a body is not the same as one with the
null value. -/
structure Message where
  id : String
  headers : Headers := {}
  body : Option Value := none
  attachments : Table ByteArray := {}
  isFault : Bool := false
deriving Inhabited

namespace Message

def header? (message : Message) (name : String) : Option Value :=
  message.headers.get? name

def setHeader (message : Message) (name : String) (value : Value) : Message :=
  { message with headers := (message.headers.insert name value).2 }

def removeHeader (message : Message) (name : String) : Option Value × Message :=
  let (dropped, headers) := message.headers.remove name
  (dropped, { message with headers := headers })

def clearHeaders (message : Message) : Message :=
  { message with headers := {} }

def setBody (message : Message) (body : Value) : Message :=
  { message with body := some body }

def clearBody (message : Message) : Message :=
  { message with body := none }

def bodyAs? (message : Message) (read : Value → Option α) : Option α :=
  message.body.bind read

/-- Adds an attachment; one of the same name is replaced. -/
def attach (message : Message) (name : String) (data : ByteArray) : Message :=
  { message with attachments := message.attachments.set name data }

/-- Drops an attachment and says whether there was one. -/
def detach (message : Message) (name : String) : Bool × Message :=
  (message.attachments.contains name, { message with attachments := message.attachments.erase name })

/-- Sets or clears the fault flag. -/
def setFault (message : Message) (fault : Bool) : Message :=
  { message with isFault := fault }

/-- The contents of another message under the id of this one. -/
def copyFrom (message other : Message) : Message :=
  { other with id := message.id }

def toDocument (message : Message) : Json :=
  .object
    [("attachments", .object (message.attachments.entries.map fun (name, data) =>
        (name, .array (data.toList.map fun byte => .int byte.toNat)))),
      ("body", (message.body.map Value.toDocument).getD .null),
      ("fault", .bool message.isFault),
      ("headers", message.headers.toDocument),
      ("id", .string message.id)]

/-- The text of a message as it is stored. -/
def serialize (message : Message) : String :=
  message.toDocument.compact

end Message

end MessageRouting
