import DotMatrix.Proofs.Snapshot.Machine
import DotMatrix.Snapshot.File

/-!
# Snapshot files come back

A snapshot file is a header and one item. Behind it may stand anything; cut short anywhere, it is
refused.

Results:
* `decode_encode`: a snapshot gives back what it keeps of the machine.
* `decode_prefix`: a snapshot that is cut short is refused.
* **`decode_snapshot`**: both together, for every machine whose numbers fit their fields.
* `encode_clock`, `encode_sb`: machines that differ in one part alone have different snapshots.
* `encode_eq_iff`: two machines have one snapshot exactly when it keeps the same of both.
-/

namespace DotMatrix

/-- Lists that have the same bytes and differ in one item have the same bytes there. -/
theorem Item.write_cancel {before behind : List Item} {i j : Item}
    (h : (list (before ++ i :: behind)).write = (list (before ++ j :: behind)).write) :
    i.write = j.write := by
  simp only [write, writeAll_eq, List.reverse_nil, List.nil_append, List.length_append,
    List.length_cons, List.flatMap_append, List.flatMap_cons] at h
  exact List.append_cancel_right (List.append_cancel_left (List.append_cancel_left h))

namespace Codec

/-- What comes back from the same bytes is the same. -/
theorem write_inj {α : Type} {codec : Codec α} {a b a' b' : α}
    (h : codec.Returns Item.maxDepth a a') (h' : codec.Returns Item.maxDepth b b')
    (same : (codec.write a).write = (codec.write b).write) : a' = b' := by
  have item : codec.write a = codec.write b := by
    have read := Item.read_takes h.storable []
    rw [same, Item.read_takes h'.storable []] at read
    exact (Prod.mk.inj (Option.some.inj read)).1.symm
  have back := h.back
  rw [item, h'.back] at back
  exact (Option.some.inj back).symm

/-! ## Where the parts stand -/

theorem cartridge_clock (c : Cartridge) :
    ∃ front, ∀ clock, cartridge.write { c with clock := clock } =
      .list (front ++ [Codec.clock.write clock]) :=
  ⟨[memory.write c.ram, byte.write c.cartType, controller.write c.controller,
    features.write c.features, size.write c.romSize, size.write c.ramSize, word.write c.romBanks,
    byte.write c.ramBanks, mapper.write c.mapper, word.write c.romBank, byte.write c.ramBank,
    flag.write c.ramEnabled], fun _ => rfl⟩

theorem link_sb (l : Link) :
    ∃ behind, ∀ sb, link.write { l with sb := sb } = .list ([] ++ byte.write sb :: behind) :=
  ⟨[byte.write l.sc], fun _ => rfl⟩

theorem bus_cart (b : Bus) :
    ∃ front behind, ∀ cart, bus.write { b with cart := cart } =
      .list (front ++ (optional cartridge).write cart :: behind) :=
  ⟨[memory.write b.wram, (bytes 0x7F).write b.hram],
    [byte.write b.requests, byte.write b.enables, link.write b.link, video.write b.video,
      sound.write b.sound, timer.write b.timer, joypad.write b.joypad, byte.write b.key1,
      byte.write b.svbk, (bytes 4).write b.undocumented, model.write b.model,
      cycles.write b.stall], fun _ => rfl⟩

theorem bus_link (b : Bus) :
    ∃ front behind, ∀ link, bus.write { b with link := link } =
      .list (front ++ Codec.link.write link :: behind) :=
  ⟨[memory.write b.wram, (bytes 0x7F).write b.hram, (optional cartridge).write b.cart,
      byte.write b.requests, byte.write b.enables],
    [video.write b.video, sound.write b.sound, timer.write b.timer, joypad.write b.joypad,
      byte.write b.key1, byte.write b.svbk, (bytes 4).write b.undocumented, model.write b.model,
      cycles.write b.stall], fun _ => rfl⟩

theorem core_bus (m : Core) :
    ∃ front, ∀ bus, core.write { m with bus := bus } = .list (front ++ [Codec.bus.write bus]) :=
  ⟨[cpu.write m.cpu], fun _ => rfl⟩

end Codec

namespace Snapshot

variable {m : Core}

/-- The body of a snapshot. -/
def bodyOf (m : Core) : List UInt8 :=
  (Codec.core.write m).write

theorem bodyOf_storable (h : m.bus.Fits) : Item.Storable Item.maxDepth (Codec.core.write m) :=
  (@Codec.core_returns 1017 m h).storable

theorem machine_bodyOf (h : m.bus.Fits) (t : List UInt8) :
    machine? (bodyOf m ++ t) = some m.stored := by
  have taken := Item.read_takes (bodyOf_storable h) t
  have returned := (@Codec.core_returns 0 m h).back
  simp [machine?, bodyOf, taken, returned]

/-- What is decoded behind a good header. -/
theorem decode_of_body {data rest : List UInt8} (h : body data = .ok rest) :
    decode data = match machine? rest with
      | some m => .ok m
      | none => .error (.stateDecode .malformed) := by
  rw [decode, h]
  rfl

theorem body_short {data : List UInt8} (h : data.length < 8) :
    body data = .error .badStateHeader := by
  unfold body
  split
  · simp only [List.length_cons] at h
    omega
  · rfl

/-- A snapshot gives back what it keeps of the machine, whatever stands behind it. -/
theorem decode_encode (h : m.bus.Fits) (t : List UInt8) :
    decode (encode m ++ t) = .ok m.stored := by
  have header : body (encode m ++ t) = .ok (bodyOf m ++ t) := rfl
  rw [decode_of_body header, machine_bodyOf h]

/-- A snapshot that is cut short behind its header has the start of a body. -/
theorem prefix_cases {p : List UInt8} (cut : p <+: encode m) :
    p.length < 8 ∨ ∃ q, q <+: bodyOf m ∧ p = magic ++ versionBytes ++ q := by
  by_cases short : p.length < 8
  · exact .inl short
  · obtain ⟨t, ht⟩ := cut
    have header : p.take 8 = magic ++ versionBytes := by
      have front := congrArg (List.take 8) ht
      rw [List.take_append_of_le_length (by omega)] at front
      exact front
    have rest : p.drop 8 ++ t = bodyOf m := by
      have behind := congrArg (List.drop 8) ht
      rw [List.drop_append_of_le_length (by omega)] at behind
      exact behind
    refine .inr ⟨p.drop 8, ⟨t, rest⟩, ?_⟩
    rw [← header, List.take_append_drop]

/-- A snapshot that is cut short is refused. -/
theorem decode_prefix (h : m.bus.Fits) {p : List UInt8} (cut : p <+: encode m)
    (short : p ≠ encode m) :
    decode p = .error .badStateHeader ∨ decode p = .error (.stateDecode .malformed) := by
  rcases prefix_cases cut with few | ⟨q, inner, rfl⟩
  · left
    rw [decode, body_short few]
    rfl
  · right
    have unread : Item.read q = none :=
      Item.read_prefix (bodyOf_storable h) inner fun whole => short (by rw [whole]; rfl)
    have header : body (magic ++ versionBytes ++ q) = .ok q := rfl
    rw [decode_of_body header]
    simp [machine?, unread]

/-- What cannot be decoded is not restored, and for the same reason. -/
theorem restore_of_decode {live : Core} {data : List UInt8} {fault : Fault}
    (h : decode data = .error fault) : restore live data = .error fault := by
  rw [restore, h]
  rfl

/-- A snapshot of a machine whose numbers fit their fields gives back everything it keeps, also in
front of other bytes; and no machine takes anything from a snapshot that is cut short. -/
theorem decode_snapshot (m : Core) (h : m.bus.Fits) :
    (∀ t, decode (encode m ++ t) = .ok m.stored) ∧
      ∀ p, p <+: encode m → p ≠ encode m →
        ∃ fault, (fault = .badStateHeader ∨ fault = .stateDecode .malformed) ∧
          decode p = .error fault ∧ ∀ live, restore live p = .error fault := by
  refine ⟨decode_encode h, fun p cut short => ?_⟩
  rcases decode_prefix h cut short with refused | refused
  · exact ⟨_, .inl rfl, refused, fun live => restore_of_decode refused⟩
  · exact ⟨_, .inr rfl, refused, fun live => restore_of_decode refused⟩

/-- A colour console at power-up with a large cartridge fits: its snapshot comes back in front of a
stray byte, and its first hundred bytes alone are refused. -/
theorem decode_snapshot_powerUp :
    let cart := Cartridge.ofHeader
      { title := "CLOCK", cartType := 0x10, controller := .mbc3
        features := { ram := true, battery := true, clock := true }
        romSize := 0x200000, ramSize := 0x8000, colour := .compatible, sgb := false
        checksumOk := true } ByteArray.empty
    let m : Core := { cpu := Cpu.boot .gbc, bus := (Bus.new .gbc).insert cart }
    m.bus.Fits ∧ decode (encode m ++ [0xC0]) = .ok m.stored ∧
      ∀ p, p <+: encode m → p ≠ encode m → ∃ fault, decode p = .error fault := by
  intro cart m
  have cartFits : cart.Fits :=
    ⟨by rw [FitsMemory, show cart.ram.size = 0x10000 from Array.size_replicate]; decide,
      by unfold FitsSize; decide, by unfold FitsSize; decide⟩
  have fits : m.bus.Fits := Bus.insert_fits (Bus.new_fits .gbc) cartFits
  refine ⟨fits, (decode_snapshot m fits).1 [0xC0], fun p cut short => ?_⟩
  obtain ⟨fault, -, refused, -⟩ := (decode_snapshot m fits).2 p cut short
  exact ⟨fault, refused⟩

/-! ## What a machine takes over -/

/-- The two sides of a cartridge that is taken over. -/
theorem joinCartridge_ok {live saved joined : Option Cartridge}
    (h : joinCartridge live saved = .ok joined) :
    (live = none ∧ saved = none ∧ joined = none) ∨
      ∃ l s, live = some l ∧ saved = some s ∧ sameCartridge l s = true ∧
        joined = some { s with rom := l.rom } := by
  unfold joinCartridge at h
  split at h
  · rename_i l s
    split at h
    · rename_i same
      cases h
      exact .inr ⟨l, s, rfl, rfl, same, rfl⟩
    · cases h
  · cases h
    exact .inl ⟨rfl, rfl, rfl⟩
  · cases h

/-- What is taken over: a bus of the same model, with whole memories and the same cartridge. -/
theorem joinBus_ok {live saved joined : Bus} (h : joinBus live saved = .ok joined) :
    saved.model = live.model ∧ wholeMemories saved = true ∧
      ∃ cart, joinCartridge live.cart saved.cart = .ok cart ∧
        joined = ({ saved with cart := cart }.adoptHost live).remap := by
  unfold joinBus at h
  split at h
  · cases h
  rename_i model
  split at h
  · cases h
  rename_i whole
  cases hc : joinCartridge live.cart saved.cart with
  | error fault =>
    rw [hc] at h
    cases h
  | ok cart =>
    rw [hc] at h
    cases h
    exact ⟨Decidable.not_not.mp model, by simpa using whole, cart, rfl, rfl⟩

/-- A snapshot that is taken over is the machine of that snapshot, joined with the live one. -/
theorem restore_ok {live saved m' : Core} (fits : saved.bus.Fits)
    (h : restore live (encode saved) = .ok m') :
    ∃ bus, joinBus live.bus saved.bus.stored = .ok bus ∧
      m' = { cpu := saved.cpu, bus := bus.report (.stateRestored saved.cpu.pc) } := by
  have decoded := decode_encode fits []
  rw [List.append_nil] at decoded
  rw [restore, decoded] at h
  change (joinBus live.bus saved.bus.stored).bind _ = _ at h
  cases hj : joinBus live.bus saved.bus.stored with
  | error fault =>
    rw [hj] at h
    cases h
  | ok bus =>
    rw [hj] at h
    cases h
    exact ⟨bus, rfl, rfl⟩

/-! ## What a snapshot tells apart -/

/-- Machines that differ in the clock alone have different snapshots, whatever else they hold. -/
theorem encode_clock (m : Core) (c : Cartridge) {clock clock' : Clock}
    (h : encode { m with bus := { m.bus with cart := some { c with clock := clock } } } =
      encode { m with bus := { m.bus with cart := some { c with clock := clock' } } }) :
    clock = clock' := by
  obtain ⟨_, core⟩ := Codec.core_bus m
  obtain ⟨_, _, bus⟩ := Codec.bus_cart m.bus
  obtain ⟨_, cartridge⟩ := Codec.cartridge_clock c
  have body := List.append_cancel_left h
  rw [core, core] at body
  have body := Item.write_cancel body
  rw [bus, bus] at body
  have body := Item.write_cancel body
  change (Codec.cartridge.write _).write = (Codec.cartridge.write _).write at body
  rw [cartridge, cartridge] at body
  have part := Item.write_cancel body
  exact Codec.write_inj (@Codec.clock_returns 1022 _) (@Codec.clock_returns 1022 _) part

/-- Machines that differ in the byte at the link port alone have different snapshots. -/
theorem encode_sb (m : Core) {sb sb' : UInt8}
    (h : encode { m with bus := { m.bus with link := { m.bus.link with sb := sb } } } =
      encode { m with bus := { m.bus with link := { m.bus.link with sb := sb' } } }) :
    sb = sb' := by
  obtain ⟨_, core⟩ := Codec.core_bus m
  obtain ⟨_, _, bus⟩ := Codec.bus_link m.bus
  obtain ⟨_, link⟩ := Codec.link_sb m.bus.link
  have body := List.append_cancel_left h
  rw [core, core] at body
  have body := Item.write_cancel body
  rw [bus, bus] at body
  have body := Item.write_cancel body
  rw [link, link] at body
  have part := Item.write_cancel body
  exact Codec.write_inj Codec.byte_returns Codec.byte_returns part

/-- What a snapshot keeps has the same snapshot. -/
theorem encode_stored (m : Core) : encode m.stored = encode m := by
  obtain ⟨cpu, bus⟩ := m
  obtain ⟨wram, hram, cart, requests, enables, link, video, sound, timer, joypad, key1, svbk,
    undocumented, model, stall, slots, hooks, notices⟩ := bus
  cases cart <;> rfl

/-- Two machines have one snapshot exactly when it keeps the same of both. -/
theorem encode_eq_iff {m n : Core} (hm : m.bus.Fits) (hn : n.bus.Fits) :
    encode m = encode n ↔ m.stored = n.stored := by
  constructor
  · intro same
    have first := decode_encode hm []
    rw [same, decode_encode hn []] at first
    exact (Except.ok.inj first).symm
  · intro same
    rw [← encode_stored m, same, encode_stored n]

end Snapshot

end DotMatrix
