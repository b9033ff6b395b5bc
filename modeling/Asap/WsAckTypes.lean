import Asap.PayloadTypes
import Asap.WsServer

-- Which envelopes a WebSocket client sends with a demand for an ack.
namespace Asap.WsAckTypes
open OrderedDict PayloadTypes Ws

def stateChangingKeys : List String := ["taskrequest","taskcancel","staterestore","messagesend"]

-- What the payload type denotes changes the state of the receiver.
def StateChanging (texts : Texts) (payloadType : String) : Prop := normalizePayloadType texts payloadType ∈ stateChangingKeys

-- The frame of the call asks for an ack, and its envelope is the newest one registered for
-- retransmission when `ws.send` has returned.
def AckDemanded (s : Client) (id : Nat) (envelope : Envelope) (receives : Bool) (now : Int) : Prop :=
  (frameOf s (.call id envelope receives)).any (fun frame => frame.requiresAck) = true ∧
    ∀ later r, let next := Client.afterSend later id envelope r receives now
      next.trackers = later.trackers ++ [⟨envelope,now,0⟩] ∧ next.connection.pendingAcks.get envelope.id = some later.trackers.length

theorem registers_iff (envelope : Envelope) : registers envelope = true ↔ envelope.id ≠ "" ∧ requiresAck envelope = true := by
  simp [registers]

theorem requiresAck_iff (envelope : Envelope) :
    requiresAck envelope = true ↔ envelope.requiresAck = true ∨ envelope.payloadType ∈ payloadTypesRequiringAck := by
  simp [requiresAck]

theorem ackDemanded_iff (s : Client) (id : Nat) (envelope : Envelope) (receives : Bool) (now : Int) :
    AckDemanded s id envelope receives now ↔ registers envelope = true := by
  unfold AckDemanded
  constructor
  · rintro ⟨_,registered⟩
    have trackers := (registered s "").1
    rw [afterSend_trackers] at trackers
    by_contra silent
    rw [if_neg silent] at trackers
    simpa using congrArg List.length trackers
  · intro registered
    refine ⟨by simp [frameOf,forSend,((registers_iff envelope).mp registered).2],?_⟩
    intro later r
    simp only
    rw [afterSend_trackers,afterSend_acks,if_pos registered,if_pos registered]
    exact ⟨rfl,Dict.get_set_self ..⟩

-- No spelling of the list stands for anything else.
theorem ack_spelling_changes (texts : Texts) (payloadType : String) (listed : payloadType ∈ payloadTypesRequiringAck) :
    StateChanging texts payloadType := by
  have ascii : ∀ spelling ∈ payloadTypesRequiringAck, ∀ c ∈ spelling.toList, c.toNat < 128 := by
    have checked : payloadTypesRequiringAck.all (fun spelling => spelling.toList.all (fun c => decide (c.toNat < 128))) = true := by
      decide +kernel
    simpa only [List.all_eq_true,decide_eq_true_eq] using checked
  have keys : ∀ spelling ∈ payloadTypesRequiringAck,
      String.ofList ((spelling.toList.map Char.toLower).filter Char.isAlphanum) ∈ stateChangingKeys := by decide +kernel
  unfold StateChanging
  rw [normalize_ascii texts payloadType (ascii payloadType listed)]
  exact keys payloadType listed

-- A state-changing envelope is sent with a demand exactly when it makes one itself or has
-- one of the listed spellings, and has an id; the listed spellings are all state-changing.
theorem state_changing_acked_iff (texts : Texts) :
    (∀ s id envelope receives now, (StateChanging texts envelope.payloadType → AckDemanded s id envelope receives now) ↔
      (StateChanging texts envelope.payloadType →
        envelope.id ≠ "" ∧ (envelope.requiresAck = true ∨ envelope.payloadType ∈ payloadTypesRequiringAck))) ∧
    ∀ payloadType ∈ payloadTypesRequiringAck, StateChanging texts payloadType := by
  refine ⟨fun s id envelope receives now => ?_,fun payloadType listed => ack_spelling_changes texts payloadType listed⟩
  rw [ackDemanded_iff,registers_iff,requiresAck_iff]

def sentAs (payloadType : String) : Envelope := {stampedRequest "e1" none with payloadType}

-- Dotted, lower-case with an underscore, and in capitals.
theorem spellings_unacked :
    ["state.restore","task_request","TASK.CANCEL"].all (fun spelling =>
      decide (normalizePayloadType asciiTexts spelling ∈ stateChangingKeys)) = true ∧
    ¬AckDemanded {} 0 (sentAs "state.restore") false 0 ∧ ¬AckDemanded {} 0 (sentAs "task_request") false 0 ∧
    ¬AckDemanded {} 0 (sentAs "TASK.CANCEL") false 0 := by
  refine ⟨by decide +kernel,?_⟩
  simp only [ackDemanded_iff]
  decide +kernel

end Asap.WsAckTypes
