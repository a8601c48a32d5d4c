import AsmDiagnostics.Proofs.Frame.Reading

/-!
# Frames come through

Frames that are written one behind another are read back as their bodies, in order, and then the
input has ended between two frames.  Nothing depends on what the bodies are: they may be empty, hold
line ends, look like headers or not be text at all.
-/

namespace AsmDiagnostics.Frame

theorem flatMap_ofMessage (messages : List Json) :
    messages.flatMap ofMessage = (messages.map Json.bytes).flatMap write := by
  rw [List.flatMap_map]
  rfl

section Short

variable {bodies : List (List UInt8)} (small : ∀ body ∈ bodies, body.length ≤ maxBody)

include small

theorem reads_all : Reads true (bodies.flatMap write) bodies [] := by
  have read := reads_write true small []
  rwa [List.append_nil] at read

theorem readAll_write : readAll (bodies.flatMap write) = (bodies, none) :=
  readAll_of_reads (reads_all small) next_nil

end Short

/-- Bodies that are not too long come through one after another, and so do messages as their own
texts. -/
theorem frames_come_through :
    (∀ bodies : List (List UInt8), (∀ body ∈ bodies, body.length ≤ maxBody) →
      Reads true (bodies.flatMap write) bodies [] ∧ next true [] = .finished ∧
        readAll (bodies.flatMap write) = (bodies, none)) ∧
    ∀ messages : List Json, (∀ message ∈ messages, message.bytes.length ≤ maxBody) →
      Reads true (messages.flatMap ofMessage) (messages.map Json.bytes) [] ∧
        readAll (messages.flatMap ofMessage) = (messages.map Json.bytes, none) := by
  refine ⟨fun bodies small => ⟨reads_all small, next_nil, readAll_write small⟩,
    fun messages small => ?_⟩
  rw [flatMap_ofMessage]
  exact ⟨reads_all (List.forall_mem_map.mpr small), readAll_write (List.forall_mem_map.mpr small)⟩

/-- An empty body, one of line ends, one that looks like a header and one that is no text come
through, and so does a message with a character of two bytes. -/
theorem odd_frames_come_through :
    let bodies : List (List UInt8) :=
      [[], [0x0D, 0x0A, 0x0D, 0x0A], header 3, [0xFF, 0x7B, 0xC3]]
    let message := Json.object [("message", .str "Unknown symbol é")]
    ((∀ body ∈ bodies, body.length ≤ maxBody) ∧ readAll (bodies.flatMap write) = (bodies, none)) ∧
      message.bytes.length ≤ maxBody ∧ readAll (ofMessage message) = ([message.bytes], none) := by
  intro bodies message
  have small : ∀ body ∈ bodies, body.length ≤ maxBody := by decide +kernel
  have short : message.bytes.length ≤ maxBody := by decide +kernel
  refine ⟨⟨small, (frames_come_through.1 bodies small).2.2⟩, short, ?_⟩
  have read := (frames_come_through.2 [message] (by
    intro other member
    obtain rfl := List.mem_singleton.mp member
    exact short)).2
  simpa using read

end AsmDiagnostics.Frame
