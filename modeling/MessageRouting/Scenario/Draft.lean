import MessageRouting.Broker.Basic

/-!
# Drafts

A draft says what a message or an exchange of a scenario holds at first. What it
leaves open is filled in when the draft is carried out.
-/

namespace MessageRouting

/-- What a message holds at first; its id is a fresh one where it is left open. -/
structure MessageDraft where
  id : Option String := none
  headers : List (String × Value) := []
  body : Option Value := none
  attachments : List (String × ByteArray) := []
  isFault : Bool := false

def MessageDraft.carryOut (draft : MessageDraft) : Routine Broker Message := do
  let id ← match draft.id with
    | some id => pure id
    | none => Broker.freshId
  return {
    id := id
    headers := Headers.ofList draft.headers
    body := draft.body
    attachments := Table.ofEntries draft.attachments
    isFault := draft.isFault }

structure ExchangeDraft where
  pattern : Pattern := .inOnly
  body : Option Value := none
  headers : List (String × Value) := []
  properties : List (String × Value) := []

def ExchangeDraft.carryOut (draft : ExchangeDraft) : Routine Broker Exchange := do
  let exchange ← Broker.newExchange draft.pattern
  let exchange := exchange.mapInbound fun message =>
    { message with body := draft.body, headers := Headers.ofList draft.headers }
  return draft.properties.foldl (fun held entry => held.setProperty entry.1 entry.2) exchange

end MessageRouting
