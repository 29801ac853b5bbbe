import TlmBoy.Bus.Reads
import TlmBoy.Lib.StateExcept

/-
  What a read of the CPU depends on.

  `ReadBus` reuses one payload for all transactions and does not reset its response status, and
  its local `data` is uninitialised. A target that answers sets both. An `Mbc1` or an `Mbc3`
  with its RAM disabled sets neither, so the read returns the uninitialised byte if the
  transaction before it went well and throws if it did not. An unmapped address sets the status
  and not the byte, which the exception's text quotes. `determined_iff` says that nothing else
  makes two reads of the same devices differ.
-/

namespace TlmBoy

/-! ## Transactions of the CPU -/

inductive Transaction where
  | read (addr : U16) (cmd : GbCommand)
  | write (addr : U16) (data : U8)
deriving DecidableEq, Repr

namespace InitSocket

/-- One transaction through the shared payload. -/
def transact (s : InitSocket Gb) (tr : Transaction) : Except Fault (InitSocket Gb) :=
  match tr with
  | .read addr cmd => (s.readBus addr cmd).map Prod.snd
  | .write addr data => s.writeBus addr data

/-- What a read gives: a byte, or how it fails. -/
def readResult (addr : U16) (cmd : GbCommand) (s : InitSocket Gb) : Except Fault U8 :=
  (s.readBus addr cmd).map Prod.fst

/-- The devices are those of `gb`. The payload and the uninitialised byte are anything. -/
def Over (gb : Gb) (dmi : Bool) (s : InitSocket Gb) : Prop :=
  s.hasRomBank0 = dmi ∧ ∃ d, s.sys = { gb with stackByte := d }

end InitSocket

/-- A read gives the same result in every two states of the CPU over the devices of `gb`. -/
def Determined (Same : Except Fault U8 → Except Fault U8 → Prop) (gb : Gb) (dmi : Bool)
    (addr : U16) (cmd : GbCommand) : Prop :=
  ∀ s s' : InitSocket Gb, s.Over gb dmi → s'.Over gb dmi →
    Same (s.readResult addr cmd) (s'.readResult addr cmd)

/-- The same byte, or exceptions that differ in their text at most. -/
def SameUpToText (r r' : Except Fault U8) : Prop :=
  r = r' ∨ ∃ text text', r = .error (.runtimeError text) ∧ r' = .error (.runtimeError text')

/-- The external RAM of an `Mbc1` or an `Mbc3`, while it is disabled. -/
def SilentRam (gb : Gb) (addr : U16) : Prop :=
  0xA000 ≤ addr ∧ addr ≤ 0xBFFF ∧ gb.cartridge.ramGate = .silent

/-! ## The uninitialised byte -/

namespace Gb

/-- The devices do not look at the CPU's stack. -/
theorem slaveTransport_stackByte (slave : Slave) (t : Payload) (gb : Gb) (d : U8) :
    slaveTransport slave t { gb with stackByte := d } =
      (slaveTransport slave t gb).map fun r => (r.1, { r.2.1 with stackByte := d }, r.2.2) := by
  cases slave <;> simp only [slaveTransport] <;>
    exact StateExcept.bind_eq_map (congrFun Except.map_id _).symm fun _ => rfl

theorem routeTransport_stackByte (t : Payload) (gb : Gb) (d : U8) :
    routeTransport t { gb with stackByte := d } =
      (routeTransport t gb).map fun r => (r.1, { r.2.1 with stackByte := d }, r.2.2) := by
  cases h : findSlave t.address with
  | none =>
    rw [routeTransport_unmapped _ h, routeTransport_unmapped _ h]
    rfl
  | some s =>
    rw [routeTransport_mapped _ h, routeTransport_mapped _ h]
    exact slaveTransport_stackByte s.socket _ gb d

theorem answers_stackByte {gb gb' : Gb} {adr : U16} {ext : Option GbCommand} {v : U8}
    (h : Answers routeTransport gb adr ext v (gb', none)) (d : U8) :
    Answers routeTransport { gb with stackByte := d } adr ext v
      ({ gb' with stackByte := d }, none) := by
  obtain ⟨rel, h⟩ := h
  refine ⟨rel, fun t hcmd ht hext => ?_⟩
  rw [routeTransport_stackByte, h t hcmd ht hext]
  rfl

end Gb

/-! ## Reads -/

namespace InitSocket

/-- The payload of a read as `ReadBus` sends it. -/
def readPayload (addr : U16) (cmd : GbCommand) (s : InitSocket Gb) : Payload :=
  { s.payload with
    command := .read, address := addr, data := s.sys.stackByte, extension := some cmd }

/-- The text of the exception that `ReadBus` throws. -/
def errorText (addr : U16) (data : U8) : String :=
  "Response error from transport_dbg!\nAddress=0x" ++ fmtHex 4 addr.toNat ++ " Data=0x" ++
    fmtHex 2 data.toNat

/-- A read of the first ROM bank through the DMI pointer. -/
theorem readBus_dmi {s : InitSocket Gb} {addr : U16} (cmd : GbCommand) (hadr : addr.toNat < 0x4000)
    (hdmi : s.hasRomBank0 = true) :
    s.readBus addr cmd = .ok (s.sys.cartridge.romLow.data ⟨addr.toNat, hadr⟩, s) :=
  dif_pos ⟨hadr, hdmi⟩

/-- A read through the bus. -/
theorem readBus_bus {s : InitSocket Gb} {addr : U16} (cmd : GbCommand)
    (hbus : ¬ (addr.toNat < 0x4000 ∧ s.hasRomBank0 = true)) : s.readBus addr cmd =
      s.sys.bTransport (s.readPayload addr cmd) >>= fun r =>
        if r.1.responseStatus.isResponseError = true then
          .error (.runtimeError (errorText addr r.1.data))
        else .ok (r.1.data, { s with payload := r.1, gbcmd := cmd, sys := r.2 }) := by
  rw [readBus, dif_neg hbus]
  refine bind_congr ?_
  rintro ⟨t, gb'⟩
  by_cases h : t.responseStatus.isResponseError = true
  · rw [if_pos h]
    exact if_pos h
  · rw [if_neg h]
    exact if_neg h

/-- It comes back with an OK response. -/
theorem readBus_ok {s : InitSocket Gb} {addr : U16} {cmd : GbCommand} {t : Payload} {gb' : Gb}
    (hbus : ¬ (addr.toNat < 0x4000 ∧ s.hasRomBank0 = true))
    (hroute : s.sys.routeTransport (s.readPayload addr cmd) = .ok (t, gb', none))
    (hok : t.responseStatus = .ok) :
    s.readBus addr cmd = .ok (t.data, { s with payload := t, gbcmd := cmd, sys := gb' }) := by
  rw [readBus_bus cmd hbus, Gb.bTransport_of_route hroute, ok_bind]
  exact if_neg (by rw [hok]; decide)

/-- It comes back with any other response. -/
theorem readBus_error {s : InitSocket Gb} {addr : U16} {cmd : GbCommand} {t : Payload} {gb' : Gb}
    (hbus : ¬ (addr.toNat < 0x4000 ∧ s.hasRomBank0 = true))
    (hroute : s.sys.routeTransport (s.readPayload addr cmd) = .ok (t, gb', none))
    (herr : t.responseStatus ≠ .ok) :
    s.readBus addr cmd = .error (.runtimeError (errorText addr t.data)) := by
  rw [readBus_bus cmd hbus, Gb.bTransport_of_route hroute, ok_bind]
  exact if_pos (bne_iff_ne.mpr herr)

/-- It does not come back. -/
theorem readBus_fault {s : InitSocket Gb} {addr : U16} {cmd : GbCommand} {e : Fault}
    (hbus : ¬ (addr.toNat < 0x4000 ∧ s.hasRomBank0 = true))
    (hroute : s.sys.routeTransport (s.readPayload addr cmd) = .error e) :
    s.readBus addr cmd = .error e := by
  rw [readBus_bus cmd hbus, Gb.bTransport, hroute]
  rfl

/-- The payload of a write as `WriteBus` sends it. -/
def writePayload (addr : U16) (data : U8) (s : InitSocket Gb) : Payload :=
  { s.payload with
    command := .write, address := addr, data := data, extension := some s.gbcmd }

/-- A write, whatever the response. -/
theorem writeBus_ok {s : InitSocket Gb} {addr : U16} {data : U8} {t : Payload} {gb' : Gb}
    (hroute : s.sys.routeTransport (s.writePayload addr data) = .ok (t, gb', none)) :
    s.writeBus addr data = .ok { s with payload := t, sys := gb' } := by
  have hrun : s.writeBus addr data = s.sys.bTransport (s.writePayload addr data) >>= fun r =>
      .ok { s with payload := r.1, sys := r.2 } := rfl
  rw [hrun, Gb.bTransport_of_route hroute]
  rfl

/-- A mapped address outside a silent RAM gives a result of the devices alone. -/
theorem readResult_eq (gb : Gb) (dmi : Bool) {addr : U16} (cmd : GbCommand)
    (hmapped : (findSlave addr).isSome = true) (hram : ¬ SilentRam gb addr) :
    ∃ r, ∀ s : InitSocket Gb, s.Over gb dmi → s.readResult addr cmd = r := by
  by_cases hbus : addr.toNat < 0x4000 ∧ dmi = true
  · refine ⟨.ok (gb.cartridge.romLow.data ⟨addr.toNat, hbus.1⟩), ?_⟩
    rintro s ⟨hdmi, d, hsys⟩
    rw [readResult, readBus_dmi cmd hbus.1 (hdmi.trans hbus.2), hsys]
    rfl
  · have hbus' : ∀ s : InitSocket Gb, s.Over gb dmi →
        ¬ (addr.toNat < 0x4000 ∧ s.hasRomBank0 = true) := by
      rintro s ⟨rfl, -⟩
      exact hbus
    by_cases hserial : addr = 0xFF03
    · refine ⟨.error (.assertion "adr < 0x2"), fun s hs => ?_⟩
      rw [readResult, readBus_fault (hbus' s hs) (s.sys.routeTransport_FF03 hserial)]
      rfl
    · by_cases hrefuses : (0xA000 ≤ addr ∧ addr ≤ 0xBFFF) ∧ gb.cartridge.ramGate = .refuses
      · refine ⟨.error (.assertion "false"), fun s hs => ?_⟩
        obtain ⟨d, hsys⟩ := hs.2
        have hgate : s.sys.cartridge.ramGate = .refuses := by
          rw [hsys]
          exact hrefuses.2
        rw [readResult, readBus_fault (hbus' s hs)
          (s.sys.routeTransport_refuses hrefuses.1.1 hrefuses.1.2 hgate)]
        rfl
      · have hopen : 0xA000 ≤ addr → addr ≤ 0xBFFF → gb.cartridge.ramGate = .answers := by
          intro hlo hhi
          cases hg : gb.cartridge.ramGate with
          | answers => rfl
          | silent => exact absurd ⟨hlo, hhi, hg⟩ hram
          | refuses => exact absurd ⟨⟨hlo, hhi⟩, hg⟩ hrefuses
        obtain ⟨v, tracer, j, h⟩ := gb.routeTransport_answers hmapped hserial hopen (some cmd)
        refine ⟨.ok v, fun s hs => ?_⟩
        obtain ⟨d, hsys⟩ := hs.2
        obtain ⟨rel, hread⟩ := Gb.answers_stackByte h d
        rw [← hsys] at hread
        rw [readResult, readBus_ok (hbus' s hs) (hread _ rfl rfl rfl) rfl]
        rfl

/-- A read of an unmapped address throws, and the text quotes the uninitialised byte. -/
theorem readResult_unmapped {s : InitSocket Gb} {addr : U16} (cmd : GbCommand)
    (hunmapped : findSlave addr = none) : s.readResult addr cmd =
      .error (.runtimeError (errorText addr s.sys.stackByte)) := by
  have hbus : ¬ (addr.toNat < 0x4000 ∧ s.hasRomBank0 = true) := by
    rintro ⟨hadr, -⟩
    exact findSlave_eq_none_iff.mp hunmapped ⟨0x0000, 0x7FFF, .cartridgeRom⟩ (by decide)
      ⟨by bv_omega, by bv_omega⟩
  rw [readResult, readBus_error hbus (s.sys.routeTransport_unmapped hunmapped) (by simp)]
  rfl

/-- A read of a silent RAM gives the uninitialised byte or throws, by the response status that
    the transaction before it left. -/
theorem readResult_silent {s : InitSocket Gb} {addr : U16} (cmd : GbCommand)
    (hram : SilentRam s.sys addr) : s.readResult addr cmd =
      if s.payload.responseStatus = .ok then .ok s.sys.stackByte
      else .error (.runtimeError (errorText addr s.sys.stackByte)) := by
  obtain ⟨hlo, hhi, hgate⟩ := hram
  have hbus : ¬ (addr.toNat < 0x4000 ∧ s.hasRomBank0 = true) := fun h => by bv_omega
  have hroute := @Gb.routeTransport_silent s.sys (s.readPayload addr cmd) hlo hhi hgate
  by_cases hok : s.payload.responseStatus = .ok
  · rw [readResult, readBus_ok hbus hroute hok, if_pos hok]
    rfl
  · rw [readResult, readBus_error hbus hroute hok, if_neg hok]
    rfl

/-! ## Histories -/

/-- A read of the work RAM leaves an OK response and the devices as they are. -/
theorem transact_workRam (s : InitSocket Gb) (cmd : GbCommand) :
    ∃ s', s.transact (.read 0xC000 cmd) = .ok s' ∧ s'.payload.responseStatus = .ok ∧
      s'.hasRomBank0 = s.hasRomBank0 ∧ s'.sys = s.sys := by
  obtain ⟨x, hx⟩ := @ramCell_of_inRam 0xC000 (.inr (.inl (by decide)))
  obtain ⟨sl, hs, hcell⟩ := Option.bind_eq_some_iff.mp hx
  have hread := @Gb.slaveTransport_read s.sys sl.socket
    { s.readPayload 0xC000 cmd with address := 0xC000 - sl.addrFrom } x hcell rfl
  have hroute := (@Gb.routeTransport_mapped s.sys (s.readPayload 0xC000 cmd) sl hs).trans hread
  have hok := readBus_ok (fun h => absurd h.1 (by decide)) hroute rfl
  have htr : s.transact (.read 0xC000 cmd) = .ok _ := congrArg (Except.map Prod.snd) hok
  exact ⟨_, htr, rfl, rfl, rfl⟩

/-- A write to 0xFEA0, where nothing is mapped, leaves an error response and the devices. -/
theorem transact_unmapped (s : InitSocket Gb) (v : U8) :
    ∃ s', s.transact (.write 0xFEA0 v) = .ok s' ∧ s'.payload.responseStatus = .addressError ∧
      s'.hasRomBank0 = s.hasRomBank0 ∧ s'.sys = s.sys := by
  have hnone : findSlave 0xFEA0 = none := by decide
  have hok := writeBus_ok (@Gb.routeTransport_unmapped s.sys (s.writePayload 0xFEA0 v) hnone)
  exact ⟨_, hok, rfl, rfl, rfl⟩

end InitSocket

/-! ## Main result -/

/-- The texts of the exceptions differ with the byte that they quote. -/
theorem errorText_ne (addr : U16) : InitSocket.errorText addr 0 ≠ InitSocket.errorText addr 1 := by
  intro h
  have hdigits := String.append_right_inj _ |>.mp h
  revert hdigits
  decide

/-- Two states of the CPU over silent RAM: after a read of the work RAM, and after another write
    to 0xFEA0. The first read gives the uninitialised byte, the second one throws. -/
theorem silent_histories {gb : Gb} {dmi : Bool} {addr : U16} (hram : SilentRam gb addr)
    (cmd : GbCommand) {s : InitSocket Gb} (hs : s.Over gb dmi) :
    ∃ s₁ s₂, [Transaction.read 0xC000 cmd].foldlM InitSocket.transact s = .ok s₁ ∧
      [Transaction.read 0xC000 cmd, .write 0xFEA0 0].foldlM InitSocket.transact s = .ok s₂ ∧
      s₁.Over gb dmi ∧ s₂.Over gb dmi ∧ s₁.readResult addr cmd = .ok s.sys.stackByte ∧
      s₂.readResult addr cmd =
        .error (.runtimeError (InitSocket.errorText addr s.sys.stackByte)) := by
  obtain ⟨s₁, htr₁, hok, hdmi₁, hsys₁⟩ := s.transact_workRam cmd
  obtain ⟨s₂, htr₂, herr, hdmi₂, hsys₂⟩ := s₁.transact_unmapped 0
  obtain ⟨hdmi, d, hsys⟩ := hs
  have hram' : SilentRam s.sys addr := by
    rw [hsys]
    exact hram
  refine ⟨s₁, s₂, ?_, ?_, ⟨hdmi₁.trans hdmi, d, hsys₁.trans hsys⟩,
    ⟨hdmi₂.trans (hdmi₁.trans hdmi), d, hsys₂.trans (hsys₁.trans hsys)⟩, ?_, ?_⟩
  · rw [List.foldlM_cons, htr₁]
    rfl
  · rw [List.foldlM_cons, htr₁]
    dsimp only [ok_bind]
    rw [List.foldlM_cons, htr₂]
    rfl
  · rw [InitSocket.readResult_silent cmd (by rw [hsys₁]; exact hram'), if_pos hok, hsys₁]
  · rw [InitSocket.readResult_silent cmd (by rw [hsys₂, hsys₁]; exact hram'),
      if_neg (by rw [herr]; decide), hsys₂, hsys₁]

/-- Silent RAM gives different results. -/
theorem not_determined_of_silent {gb : Gb} {dmi : Bool} {addr : U16} (hram : SilentRam gb addr)
    (cmd : GbCommand) : ¬ Determined SameUpToText gb dmi addr cmd := by
  intro h
  obtain ⟨s₁, s₂, -, -, hs₁, hs₂, hr₁, hr₂⟩ := @silent_histories gb dmi addr hram cmd
    { payload := {}, gbcmd := cmd, hasRomBank0 := dmi, sys := gb } ⟨rfl, gb.stackByte, rfl⟩
  have hsame := h s₁ s₂ hs₁ hs₂
  rw [hr₁, hr₂] at hsame
  rcases hsame with heq | ⟨text, text', heq, -⟩ <;> cases heq

/-- An unmapped address gives exceptions with different texts. -/
theorem not_determined_of_unmapped {addr : U16} (hunmapped : findSlave addr = none) (gb : Gb)
    (dmi : Bool) (cmd : GbCommand) : ¬ Determined (· = ·) gb dmi addr cmd := by
  intro h
  have hsame := h {
    payload := {}, gbcmd := cmd, hasRomBank0 := dmi, sys := { gb with stackByte := 0 } }
    { payload := {}, gbcmd := cmd, hasRomBank0 := dmi, sys := { gb with stackByte := 1 } }
    ⟨rfl, 0, rfl⟩ ⟨rfl, 1, rfl⟩
  rw [InitSocket.readResult_unmapped cmd hunmapped, InitSocket.readResult_unmapped cmd hunmapped]
    at hsame
  injection hsame with hsame
  injection hsame with hsame
  exact errorText_ne addr hsame

/-- The result of a read is a function of the address and the devices exactly when the address
    is not in a silent RAM. For the text of an exception to be one it has to be mapped, too. Over
    a silent RAM two histories that leave the devices alone give a byte and an exception. -/
theorem determined_iff (gb : Gb) (dmi : Bool) (addr : U16) (cmd : GbCommand) :
    (Determined SameUpToText gb dmi addr cmd ↔ ¬ SilentRam gb addr) ∧
    (Determined (· = ·) gb dmi addr cmd ↔ ¬ SilentRam gb addr ∧ (findSlave addr).isSome = true) ∧
    (SilentRam gb addr → ∀ s : InitSocket Gb, s.Over gb dmi → ∃ s₁ s₂,
      [Transaction.read 0xC000 cmd].foldlM InitSocket.transact s = .ok s₁ ∧
      [Transaction.read 0xC000 cmd, .write 0xFEA0 0].foldlM InitSocket.transact s = .ok s₂ ∧
      s₁.Over gb dmi ∧ s₂.Over gb dmi ∧ s₁.readResult addr cmd = .ok s.sys.stackByte ∧
      ∃ e, s₂.readResult addr cmd = .error e) := by
  have hsame : (findSlave addr).isSome = true → ¬ SilentRam gb addr →
      Determined (· = ·) gb dmi addr cmd := by
    intro hmapped hram s s' hs hs'
    obtain ⟨r, hr⟩ := InitSocket.readResult_eq gb dmi cmd hmapped hram
    rw [hr s hs, hr s' hs']
  refine ⟨⟨fun h hram => not_determined_of_silent hram cmd h, fun hram s s' hs hs' => ?_⟩,
    ⟨fun h => ⟨fun hram => ?_, ?_⟩, fun h => hsame h.2 h.1⟩, fun hram s hs => ?_⟩
  · by_cases hmapped : (findSlave addr).isSome = true
    · exact .inl (hsame hmapped hram s s' hs hs')
    · have hnone := Option.not_isSome_iff_eq_none.mp hmapped
      exact .inr ⟨_, _, InitSocket.readResult_unmapped cmd hnone,
        InitSocket.readResult_unmapped cmd hnone⟩
  · exact not_determined_of_silent hram cmd fun s s' hs hs' => .inl (h s s' hs hs')
  · by_contra hmapped
    exact not_determined_of_unmapped (Option.not_isSome_iff_eq_none.mp hmapped) gb dmi cmd h
  · obtain ⟨s₁, s₂, h₁, h₂, hs₁, hs₂, hr₁, hr₂⟩ := silent_histories hram cmd hs
    exact ⟨s₁, s₂, h₁, h₂, hs₁, hs₂, hr₁, _, hr₂⟩

/-- An `Mbc1` as it starts, with its RAM disabled: reads of 0xA000 are not determined. -/
theorem disabled_ram_undetermined : ¬ ∀ gb dmi addr cmd,
    Determined SameUpToText gb dmi addr cmd := by
  intro h
  exact @not_determined_of_silent
    (Gb.powerOn (.mbc1 (.init (fun _ => 0) (fun _ => 0) (fun _ => 0) false)))
    true 0xA000 ⟨by decide, by decide, rfl⟩ .gbReadData (h _ _ _ _)

end TlmBoy
