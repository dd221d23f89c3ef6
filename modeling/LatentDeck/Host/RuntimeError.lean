import Mathlib.Init

/-!
# Errors of the deck runtime

`GenericDeckRuntimeError`: a stable code, a message for the user, and whether the session can go on
behind it. Each kind of error is made by one function.
-/

namespace LatentDeck.Host

structure GenericDeckRuntimeError where
  code : String
  message : String
  fatal : Bool
  deriving DecidableEq

namespace GenericDeckRuntimeError

def input : GenericDeckRuntimeError :=
  ⟨"deck.input_invalid", "The exact Deck controls, roles, transport, or seed are invalid.", false⟩

def protocol : GenericDeckRuntimeError :=
  ⟨"deck.protocol_fault",
    "The Protocol 2 worker returned a response outside the negotiated Deck contract.", true⟩

def worker : GenericDeckRuntimeError :=
  ⟨"deck.worker_fault", "The isolated Protocol 2 worker stopped unexpectedly.", true⟩

def timeout : GenericDeckRuntimeError :=
  ⟨"deck.worker_timeout",
    "The isolated Protocol 2 worker did not answer within the bounded deadline.", true⟩

def output : GenericDeckRuntimeError :=
  ⟨"output.unavailable", "The native decoded output is unavailable for this session.", true⟩

def ring : GenericDeckRuntimeError :=
  ⟨"output.ring_fault", "The decoded RGB Ring ABI 2 contract was violated.", true⟩

def diagnostics : GenericDeckRuntimeError :=
  ⟨"diagnostics.contract_invalid",
    "The bounded Protocol 2 runtime diagnostics violated the negotiated contract.", true⟩

def capture (code message : String) : GenericDeckRuntimeError := ⟨code, message, false⟩

def remote (code message : String) (fatal : Bool) : GenericDeckRuntimeError :=
  ⟨code, message, fatal⟩

end GenericDeckRuntimeError

end LatentDeck.Host
