import TlmBoy.Gdb.DebugAccess

/-
  The response status that a transaction comes with.

  No slave looks at it. A transaction sets it whatever it was (`SetsStatus`) or leaves it and does
  the same (`LeavesStatus`), and so does the bus (`bTransport_status`, `transportDbg_status`). What
  leaves it are the writes to the registers of a controller and the accesses to the disabled
  external RAM of an `Mbc1` or an `Mbc3`; with another controller every read sets it.
-/

namespace TlmBoy

/-- The payload with another response status. -/
def Payload.withStatus (status : TlmResponseStatus) (t : Payload) : Payload :=
  { t with responseStatus := status }

section Transports

variable {T U : Type} {f : Payload → Except Fault (Payload × T)} {t : Payload}

/-- The response status is set, so the one that `t` comes with does not matter. -/
def SetsStatus (f : Payload → Except Fault (Payload × T)) (t : Payload) : Prop :=
  ∀ status, f (t.withStatus status) = f t

/-- The response status is left as it is, and nothing else depends on it. -/
def LeavesStatus (f : Payload → Except Fault (Payload × T)) (t : Payload) : Prop :=
  ∀ status, f (t.withStatus status) = (f t).map fun r => (r.1.withStatus status, r.2)

theorem SetsStatus.bind (h : SetsStatus f t) (k : Payload × T → Except Fault (Payload × U)) :
    SetsStatus (fun t => f t >>= k) t := by
  intro status
  show f (t.withStatus status) >>= k = f t >>= k
  rw [h status]

/-- What follows the transaction does not depend on the response status. -/
theorem LeavesStatus.bind (h : LeavesStatus f t) {k : Payload × T → Except Fault (Payload × U)}
    (hk : ∀ r status, k (r.1.withStatus status, r.2) =
      (k r).map fun r' => (r'.1.withStatus status, r'.2)) :
    LeavesStatus (fun t => f t >>= k) t := fun status =>
  StateExcept.bind_eq_map (h status) fun r => hk r status

theorem SetsStatus.map (h : SetsStatus f t) (g : T → U) :
    SetsStatus (fun t => (f t).map fun r => (r.1, g r.2)) t := by
  intro status
  show (f (t.withStatus status)).map _ = (f t).map _
  rw [h status]

theorem LeavesStatus.map (h : LeavesStatus f t) (g : T → U) :
    LeavesStatus (fun t => (f t).map fun r => (r.1, g r.2)) t := by
  intro status
  show (f (t.withStatus status)).map _ = ((f t).map _).map _
  rw [h status]
  cases f t <;> rfl

/-- A transaction that is one with another payload. -/
theorem SetsStatus.of_same {g : Payload → Except Fault (Payload × T)} {t' : Payload}
    (hsame : ∀ status, f (t.withStatus status) = g (t'.withStatus status)) (h : SetsStatus g t') :
    SetsStatus f t := by
  have hown : f t = g (t'.withStatus t.responseStatus) := hsame t.responseStatus
  intro status
  rw [hsame status, h status, hown, h]

theorem LeavesStatus.of_same {g : Payload → Except Fault (Payload × T)} {t' : Payload}
    (hsame : ∀ status, f (t.withStatus status) = g (t'.withStatus status))
    (h : LeavesStatus g t') : LeavesStatus f t := by
  have hown : f t = g (t'.withStatus t.responseStatus) := hsame t.responseStatus
  intro status
  rw [hsame status, h status, hown, h]
  cases g t' <;> rfl

/-- After an assertion something is done that does not depend on the response status, and the
    payload comes back as it is. -/
theorem LeavesStatus.of_assert (c : Prop) [Decidable c] (text : String) (e : Except Fault T)
    (h : ∀ status, f (t.withStatus status) =
      cAssert c text >>= fun _ => e >>= fun s => .ok (t.withStatus status, s)) :
    LeavesStatus f t := by
  intro status
  have hown : f t = cAssert c text >>= fun _ => e >>= fun s => .ok (t, s) := h t.responseStatus
  rw [h status, hown]
  cases cAssert c text with
  | error stop => rfl
  | ok u => cases e <;> rfl

/-- With the response status `status` the transaction fails alike, or does the same and comes back
    with a response status that is an error alike, if anybody sees it. -/
def SameOutcome (seen : Payload × T → Prop) (f : Payload → Except Fault (Payload × T))
    (t : Payload) (status : TlmResponseStatus) : Prop :=
  (∃ e, f t = .error e ∧ f (t.withStatus status) = .error e) ∨
  ∃ r status', f t = .ok r ∧ f (t.withStatus status) = .ok (r.1.withStatus status', r.2) ∧
    (seen r → status'.isResponseError = r.1.responseStatus.isResponseError)

theorem SetsStatus.sameOutcome (h : SetsStatus f t) (seen : Payload × T → Prop)
    (status : TlmResponseStatus) : SameOutcome seen f t status := by
  unfold SameOutcome
  rw [h status]
  cases hf : f t with
  | error e => exact .inl ⟨e, rfl, rfl⟩
  | ok r => exact .inr ⟨r, r.1.responseStatus, rfl, rfl, fun _ => rfl⟩

theorem LeavesStatus.sameOutcome (h : LeavesStatus f t) {seen : Payload × T → Prop}
    {status : TlmResponseStatus} (hseen : ∀ r, f t = .ok r → seen r →
      status.isResponseError = t.responseStatus.isResponseError) :
    SameOutcome seen f t status := by
  unfold SameOutcome
  rw [h status]
  have hown : f t = (f t).map fun r => (r.1.withStatus t.responseStatus, r.2) :=
    h t.responseStatus
  cases hf : f t with
  | error e => exact .inl ⟨e, rfl, rfl⟩
  | ok r =>
    refine .inr ⟨r, status, rfl, rfl, fun hr => ?_⟩
    rw [hf] at hown
    obtain ⟨hpayload, -⟩ := Prod.mk.inj (Except.ok.inj hown)
    rw [hseen r hf hr, hpayload]
    rfl

/-- What follows the transaction sees nothing of the response status. -/
theorem SameOutcome.bind {seen : Payload × T → Prop} {status : TlmResponseStatus}
    (h : SameOutcome seen f t status) {S A : Type} {R : S → S → Prop}
    {k k' : Payload × T → Except Fault (A × S)}
    (hk : ∀ r status', (seen r → status'.isResponseError = r.1.responseStatus.isResponseError) →
      StateExcept.Agree R (k r) (k' (r.1.withStatus status', r.2))) :
    StateExcept.Agree R (f t >>= k) (f (t.withStatus status) >>= k') := by
  obtain ⟨e, h, h'⟩ | ⟨r, status', h, h', hsame⟩ := h
  · rw [h, h']
    exact rfl
  · rw [h, h']
    exact hk r status' hsame

end Transports

/-! ## The cartridge -/

/-- The controllers whose external RAM leaves the response status while it is disabled. -/
def Cartridge.canBeSilent : Cartridge → Bool
  | .mbc1 _ | .mbc3 _ => true
  | .rom _ | .mbc5 _ => false

namespace Cartridge

variable (c : Cartridge) (t : Payload)

/-- Reading the ROM sets the response status. -/
theorem bTransportRom_sets (hcmd : t.command = .read) :
    SetsStatus (fun t => c.bTransportRom t) t := by
  obtain ⟨command, address, data, status, extension⟩ := t
  obtain rfl : command = .read := hcmd
  intro status'
  cases c <;> rfl

/-- A write to the registers of an `Mbc1`, an `Mbc3` or an `Mbc5` leaves it. -/
theorem bTransportRom_status :
    SetsStatus (fun t => c.bTransportRom t) t ∨ LeavesStatus (fun t => c.bTransportRom t) t := by
  by_cases hcmd : t.command = .read
  · exact .inl (c.bTransportRom_sets t hcmd)
  obtain ⟨command, address, data, status, extension⟩ := t
  cases c with
  | rom m => exact .inl fun _ => rfl
  | mbc1 m =>
    refine .inr (LeavesStatus.map ?_ _)
    cases command with
    | read => exact absurd rfl hcmd
    | ignore => exact .of_assert (address < 0x8000) _ (.ok m) fun _ => rfl
    | write => exact .of_assert (address < 0x8000) _ (m.romWrite address data) fun _ => rfl
  | mbc3 m =>
    refine .inr (LeavesStatus.map ?_ _)
    cases command with
    | read => exact absurd rfl hcmd
    | ignore => exact .of_assert (address < 0x8000) _ (.ok m) fun _ => rfl
    | write => exact .of_assert (address < 0x8000) _ (m.romWrite address data) fun _ => rfl
  | mbc5 m =>
    refine .inr (LeavesStatus.map ?_ _)
    cases command with
    | read => exact absurd rfl hcmd
    | ignore => exact .of_assert (address < 0x8000) _ (.ok m) fun _ => rfl
    | write => exact .of_assert (address < 0x8000) _ (m.romWrite address data) fun _ => rfl

/-- An external RAM that is never silent sets the response status. -/
theorem bTransportRam_sets (time : I64) (hloud : c.canBeSilent = false) :
    SetsStatus (fun t => c.bTransportRam time t) t := by
  cases c with
  | mbc1 m => cases hloud
  | mbc3 m => cases hloud
  | rom m => exact fun _ => rfl
  | mbc5 m => exact fun _ => rfl

/-- A disabled external RAM leaves it. -/
theorem bTransportRam_status (time : I64) : SetsStatus (fun t => c.bTransportRam time t) t ∨
    LeavesStatus (fun t => c.bTransportRam time t) t := by
  cases c with
  | rom m => exact .inl fun _ => rfl
  | mbc5 m => exact .inl fun _ => rfl
  | mbc1 m =>
    by_cases hopen : m.ramEnabled = true
    · refine .inl (SetsStatus.map ?_ _)
      intro status
      show Mbc1.bTransportRam _ m = Mbc1.bTransportRam t m
      rw [Mbc1.bTransportRam, Mbc1.bTransportRam, if_pos hopen, if_pos hopen]
      rfl
    · refine .inr (LeavesStatus.map (.of_assert (t.address ≤ 0x1FFF)
        "static_cast<u16>(trans.get_address()) <= 0x1FFF" (.ok m) fun status => ?_) _)
      show Mbc1.bTransportRam _ m = _
      rw [Mbc1.bTransportRam, if_neg hopen]
      rfl
  | mbc3 m =>
    by_cases hopen : m.ramRtcEnabled = true
    · refine .inl (SetsStatus.map ?_ _)
      intro status
      show Mbc3.bTransportRam time _ m = Mbc3.bTransportRam time t m
      rw [Mbc3.bTransportRam, Mbc3.bTransportRam, if_pos hopen, if_pos hopen]
      rfl
    · refine .inr (LeavesStatus.map (.of_assert (t.address ≤ 0x1FFF)
        "static_cast<u16>(trans.get_address()) <= 0x1FFFu" (.ok m) fun status => ?_) _)
      show Mbc3.bTransportRam time _ m = _
      rw [Mbc3.bTransportRam, if_neg hopen]
      rfl

theorem transportDbgRom_sets : SetsStatus (fun t => c.transportDbgRom t) t := by
  cases c <;> exact fun _ => rfl

theorem transportDbgRam_sets (time : I64) (hloud : c.canBeSilent = false) :
    SetsStatus (fun t => c.transportDbgRam time t) t := by
  cases c with
  | mbc1 m => cases hloud
  | mbc3 m => cases hloud
  | rom m => exact fun _ => rfl
  | mbc5 m => exact fun _ => rfl

theorem transportDbgRam_status (time : I64) : SetsStatus (fun t => c.transportDbgRam time t) t ∨
    LeavesStatus (fun t => c.transportDbgRam time t) t := by
  cases c with
  | mbc5 m => exact .inl fun _ => rfl
  | rom m => exact bTransportRam_status (.rom m) t time
  | mbc1 m => exact bTransportRam_status (.mbc1 m) t time
  | mbc3 m => exact bTransportRam_status (.mbc3 m) t time

/-- A cartridge does not change its controller. -/
theorem bTransportRom_canBeSilent {r : Payload × Cartridge} (h : c.bTransportRom t = .ok r) :
    r.2.canBeSilent = c.canBeSilent := by
  cases c <;>
    · obtain ⟨r', -, rfl⟩ := StateExcept.map_eq_ok h
      rfl

theorem bTransportRam_canBeSilent {time : I64} {r : Payload × Cartridge}
    (h : c.bTransportRam time t = .ok r) : r.2.canBeSilent = c.canBeSilent := by
  cases c <;>
    · obtain ⟨r', -, rfl⟩ := StateExcept.map_eq_ok h
      rfl

end Cartridge

/-! ## The bus -/

namespace Gb

variable (gb : Gb) (t : Payload)

theorem slaveTransport_sets {slave : Slave} (hrom : slave ≠ .cartridgeRom)
    (hram : slave ≠ .cartridgeRam) : SetsStatus (fun t => gb.slaveTransport slave t) t := by
  cases slave with
  | cartridgeRom => exact absurd rfl hrom
  | cartridgeRam => exact absurd rfl hram
  | _ => exact fun _ => rfl

theorem slaveTransport_status (slave : Slave) :
    SetsStatus (fun t => gb.slaveTransport slave t) t ∨
      LeavesStatus (fun t => gb.slaveTransport slave t) t := by
  by_cases hrom : slave = .cartridgeRom
  · subst hrom
    rcases gb.cartridge.bTransportRom_status t with h | h
    · exact .inl (h.bind _)
    · exact .inr (h.bind fun _ _ => rfl)
  by_cases hram : slave = .cartridgeRam
  · subst hram
    rcases gb.cartridge.bTransportRam_status t gb.hostTime with h | h
    · exact .inl (h.bind _)
    · exact .inr (h.bind fun _ _ => rfl)
  exact .inl (gb.slaveTransport_sets t hrom hram)

theorem routeTransport_status : SetsStatus (fun t => gb.routeTransport t) t ∨
    LeavesStatus (fun t => gb.routeTransport t) t := by
  cases hs : findSlave t.address with
  | none =>
    refine .inl (@SetsStatus.of_same _ _ t (fun t => .ok ({ t with
      responseStatus := .addressError }, gb, none)) t (fun _ => ?_) fun _ => rfl)
    exact gb.routeTransport_unmapped hs
  | some s =>
    have hroute := fun status => @routeTransport_mapped gb (t.withStatus status) s hs
    refine (gb.slaveTransport_status { t with address := t.address - s.addrFrom }
      s.socket).imp ?_ ?_
    · exact fun h => .of_same hroute h
    · exact fun h => .of_same hroute h

/-- A guest's read sets the response status, unless a controller can be silent. -/
theorem routeTransport_sets (hcmd : t.command = .read)
    (hloud : gb.cartridge.canBeSilent = false) : SetsStatus (fun t => gb.routeTransport t) t := by
  cases hs : findSlave t.address with
  | none =>
    refine @SetsStatus.of_same _ _ t (fun t => .ok ({ t with
      responseStatus := .addressError }, gb, none)) t (fun _ => ?_) fun _ => rfl
    exact gb.routeTransport_unmapped hs
  | some s =>
    have hroute := fun status => @routeTransport_mapped gb (t.withStatus status) s hs
    refine @SetsStatus.of_same _ _ t (fun t => gb.slaveTransport s.socket t)
      { t with address := t.address - s.addrFrom } hroute ?_
    by_cases hrom : s.socket = .cartridgeRom
    · rw [hrom]
      exact (gb.cartridge.bTransportRom_sets { t with address := t.address - s.addrFrom }
        hcmd).bind _
    by_cases hram : s.socket = .cartridgeRam
    · rw [hram]
      exact (gb.cartridge.bTransportRam_sets { t with address := t.address - s.addrFrom }
        gb.hostTime hloud).bind _
    exact gb.slaveTransport_sets _ hrom hram

/-- A transaction is its slave's, and then an OAM DMA if it starts one. -/
def afterRoute (r : Payload × Gb × Option U8) : Except Fault (Payload × Gb) :=
  match r.2.2 with
  | none => .ok (r.1, r.2.1)
  | some byte => r.2.1.dmaTransfer byte >>= fun m => .ok (r.1, m)

theorem afterRoute_withStatus (r : Payload × Gb × Option U8) (status : TlmResponseStatus) :
    afterRoute (r.1.withStatus status, r.2) =
      (afterRoute r).map fun r' => (r'.1.withStatus status, r'.2) := by
  obtain ⟨t', gb', dma⟩ := r
  cases dma with
  | none => rfl
  | some byte =>
    show (gb'.dmaTransfer byte >>= _) = (gb'.dmaTransfer byte >>= _).map _
    cases gb'.dmaTransfer byte <;> rfl

theorem bTransport_status : SetsStatus (fun t => gb.bTransport t) t ∨
    LeavesStatus (fun t => gb.bTransport t) t :=
  (gb.routeTransport_status t).imp (fun h => h.bind _) fun h => h.bind afterRoute_withStatus

theorem bTransport_sets (hcmd : t.command = .read) (hloud : gb.cartridge.canBeSilent = false) :
    SetsStatus (fun t => gb.bTransport t) t := (gb.routeTransport_sets t hcmd hloud).bind _

theorem slaveTransportDbg_status (slave : Slave) :
    SetsStatus (fun t => gb.slaveTransportDbg slave t) t ∨
      LeavesStatus (fun t => gb.slaveTransportDbg slave t) t := by
  by_cases hrom : slave = .cartridgeRom
  · subst hrom
    exact .inl ((gb.cartridge.transportDbgRom_sets t).bind _)
  by_cases hram : slave = .cartridgeRam
  · subst hram
    exact (gb.cartridge.transportDbgRam_status t gb.hostTime).imp (fun h => h.bind _)
      fun h => h.bind fun _ _ => rfl
  have hguest := gb.slaveTransport_sets t hrom hram
  refine .inl fun status => ?_
  show gb.slaveTransportDbg slave (t.withStatus status) = gb.slaveTransportDbg slave t
  rw [slaveTransportDbg_eq hrom hram, slaveTransportDbg_eq hrom hram]
  exact hguest status

theorem slaveTransportDbg_sets (slave : Slave) (hloud : gb.cartridge.canBeSilent = false) :
    SetsStatus (fun t => gb.slaveTransportDbg slave t) t := by
  by_cases hram : slave = .cartridgeRam
  · subst hram
    exact (gb.cartridge.transportDbgRam_sets t gb.hostTime hloud).bind _
  cases slave with
  | cartridgeRam => exact absurd rfl hram
  | cartridgeRom => exact (gb.cartridge.transportDbgRom_sets t).bind _
  | _ => exact fun _ => rfl

/-- A debug transaction with another payload, in the same way. -/
theorem transportDbg_route {s : BusSlave} (hs : findSlave t.address = some s)
    (status : TlmResponseStatus) : gb.transportDbg (t.withStatus status) =
      gb.slaveTransportDbg s.socket
        (Payload.withStatus status { t with address := t.address - s.addrFrom }) >>= afterRoute :=
  @transportDbg_mapped gb (t.withStatus status) s hs

theorem transportDbg_unmapped_sets (hs : findSlave t.address = none) :
    SetsStatus (fun t => gb.transportDbg t) t :=
  @SetsStatus.of_same _ _ t (fun t => .ok ({ t with responseStatus := .addressError }, gb)) t
    (fun _ => gb.transportDbg_unmapped hs) fun _ => rfl

theorem transportDbg_status : SetsStatus (fun t => gb.transportDbg t) t ∨
    LeavesStatus (fun t => gb.transportDbg t) t := by
  cases hs : findSlave t.address with
  | none => exact .inl (gb.transportDbg_unmapped_sets t hs)
  | some s =>
    refine (gb.slaveTransportDbg_status { t with address := t.address - s.addrFrom }
      s.socket).imp (fun h => ?_) fun h => ?_
    · exact .of_same (gb.transportDbg_route t hs) (h.bind _)
    · exact .of_same (gb.transportDbg_route t hs) (h.bind afterRoute_withStatus)

theorem transportDbg_sets (hloud : gb.cartridge.canBeSilent = false) :
    SetsStatus (fun t => gb.transportDbg t) t := by
  cases hs : findSlave t.address with
  | none => exact gb.transportDbg_unmapped_sets t hs
  | some s =>
    exact .of_same (gb.transportDbg_route t hs) ((gb.slaveTransportDbg_sets
      { t with address := t.address - s.addrFrom } s.socket hloud).bind _)

/-! ### The controller stays -/

variable {gb t}

theorem slaveTransport_canBeSilent {slave : Slave} {r : Payload × Gb × Option U8}
    (h : gb.slaveTransport slave t = .ok r) :
    r.2.1.cartridge.canBeSilent = gb.cartridge.canBeSilent := by
  cases slave with
  | cartridgeRom =>
    obtain ⟨r', hrom, h⟩ := StateExcept.except_bind_eq_ok h
    cases h
    exact Cartridge.bTransportRom_canBeSilent _ _ hrom
  | cartridgeRam =>
    obtain ⟨r', hram, h⟩ := StateExcept.except_bind_eq_ok h
    cases h
    exact Cartridge.bTransportRam_canBeSilent _ _ hram
  | _ =>
    obtain ⟨r', -, h⟩ := StateExcept.except_bind_eq_ok h
    cases h
    rfl

theorem routeTransport_canBeSilent {r : Payload × Gb × Option U8}
    (h : gb.routeTransport t = .ok r) :
    r.2.1.cartridge.canBeSilent = gb.cartridge.canBeSilent := by
  cases hs : findSlave t.address with
  | none =>
    rw [gb.routeTransport_unmapped hs] at h
    cases h
    rfl
  | some s =>
    rw [gb.routeTransport_mapped hs] at h
    exact slaveTransport_canBeSilent h

theorem dmaTransfer_canBeSilent {gb' : Gb} {byte : U8} (h : gb.dmaTransfer byte = .ok gb') :
    gb'.cartridge.canBeSilent = gb.cartridge.canBeSilent := by
  have hloop : ∀ (is : List Nat) (s s' : Payload × Payload × Gb),
      is.foldlM (dmaStep (byte.setWidth 16 <<< 8)) s = .ok s' →
        s'.2.2.cartridge.canBeSilent = s.2.2.cartridge.canBeSilent := by
    intro is
    induction is with
    | nil =>
      intro s s' h
      cases h
      rfl
    | cons i is ih =>
      intro s s' h
      obtain ⟨s₁, hstep, hrest⟩ := StateExcept.except_bind_eq_ok h
      obtain ⟨r, hread, hstep⟩ := StateExcept.except_bind_eq_ok hstep
      obtain ⟨r', hwrite, hstep⟩ := StateExcept.except_bind_eq_ok hstep
      cases hstep
      rw [ih _ _ hrest]
      exact (routeTransport_canBeSilent hwrite).trans (routeTransport_canBeSilent hread)
  obtain ⟨s', hrun, hlast⟩ := StateExcept.except_bind_eq_ok h
  cases hlast
  exact hloop _ _ _ hrun

theorem afterRoute_canBeSilent {r : Payload × Gb × Option U8} {r' : Payload × Gb}
    (h : afterRoute r = .ok r') :
    r'.2.cartridge.canBeSilent = r.2.1.cartridge.canBeSilent := by
  obtain ⟨t', gb', dma⟩ := r
  cases dma with
  | none =>
    cases h
    rfl
  | some byte =>
    obtain ⟨m, hdma, h⟩ := StateExcept.except_bind_eq_ok h
    cases h
    exact dmaTransfer_canBeSilent hdma

theorem bTransport_canBeSilent {r : Payload × Gb} (h : gb.bTransport t = .ok r) :
    r.2.cartridge.canBeSilent = gb.cartridge.canBeSilent := by
  obtain ⟨r', hroute, h⟩ := StateExcept.except_bind_eq_ok h
  exact (afterRoute_canBeSilent h).trans (routeTransport_canBeSilent hroute)

/-! ### Outcomes -/

variable (gb t)

/-- A guest's transaction. The response status shows in a read, and later while the controller
    can be silent. -/
theorem bTransport_sameOutcome {status : TlmResponseStatus}
    (h : gb.cartridge.canBeSilent = true →
      status.isResponseError = t.responseStatus.isResponseError) :
    SameOutcome (fun r => t.command = .read ∨ r.2.cartridge.canBeSilent = true)
      (fun t => gb.bTransport t) t status := by
  by_cases hsets : SetsStatus (fun t => gb.bTransport t) t
  · exact hsets.sameOutcome _ _
  · have hleaves := (gb.bTransport_status t).resolve_left hsets
    refine hleaves.sameOutcome fun r hr hseen => h ?_
    by_contra hloud
    rcases hseen with hcmd | hsilent
    · exact hsets (gb.bTransport_sets t hcmd (Bool.eq_false_of_not_eq_true hloud))
    · exact hloud ((bTransport_canBeSilent hr).symm.trans hsilent)

/-- A debug transaction. -/
theorem transportDbg_sameOutcome {status : TlmResponseStatus}
    (h : gb.cartridge.canBeSilent = true →
      status.isResponseError = t.responseStatus.isResponseError) :
    SameOutcome (fun _ => True) (fun t => gb.transportDbg t) t status := by
  by_cases hsets : SetsStatus (fun t => gb.transportDbg t) t
  · exact hsets.sameOutcome _ _
  · have hleaves := (gb.transportDbg_status t).resolve_left hsets
    refine hleaves.sameOutcome fun _ _ _ => h ?_
    by_contra hloud
    exact hsets (gb.transportDbg_sets t (Bool.eq_false_of_not_eq_true hloud))

end Gb

end TlmBoy
