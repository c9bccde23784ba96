import AutismOS.Library.FirstCome
import AutismOS.Network.Delivery

namespace AutismOS.Network

open AutismOS.Library

variable {host before after : Host} {packet length ip : Nat} {mac : Mac} {cache known blanks : List ArpEntry}

/-! What is learned of the neighbours. -/

/-- A packet is received, or anything else happens that does not touch the cache. -/
inductive Hearing where
  | packet (packet length : Nat)
  | other (host : Host)

namespace Host

variable (host : Host)

def hear : Hearing → Host
  | .packet packet length => host.arpReceive packet length
  | .other other => { other with arpCache := host.arpCache }

def hearing (arrived : Hearing) : Option Host := some (host.hear arrived)

/-- The addresses that are known, in the order of the entries. -/
def neighbours : List (Nat × Mac) := (host.arpCache.filter (·.valid)).map fun entry => (entry.ip, entry.mac)

/-- The packet is long enough, and for this machine. -/
def Hears (packet length : Nat) : Prop :=
  arpPacketSize ≤ length ∧ host.memory.loadWord (packet + 24) = host.arpLocalIp

instance : Decidable (host.Hears packet length) := inferInstanceAs (Decidable (_ ∧ _))

def arpSenderIp (packet : Nat) : Nat := host.memory.loadWord (packet + 14)

def arpSenderMac (packet : Nat) : Mac := .load host.memory (packet + 8)

end Host

/-- The sender of a packet is found as the packet says, and the others that are known as before. -/
def Learns (before : Host) (hearing : Hearing) (after : Host) : Prop :=
  match hearing with
  | .packet packet length =>
      before.Hears packet length →
        after.arpLookup (before.arpSenderIp packet) = some (before.arpSenderMac packet) ∧
          ∀ ip mac, ip ≠ before.arpSenderIp packet → before.arpLookup ip = some mac → after.arpLookup ip = some mac
  | .other _ => True

/-- The sender is known as the packet says, or not known while there are fewer neighbours than entries. -/
def Acceptable (host : Host) : Hearing → Prop
  | .packet packet length =>
      host.Hears packet length →
        host.arpLookup (host.arpSenderIp packet) = some (host.arpSenderMac packet) ∨
          host.arpLookup (host.arpSenderIp packet) = none ∧ host.neighbours.length < arpCacheSize
  | .other _ => True

theorem arpLookup_neighbours : host.arpLookup ip = host.neighbours.lookup ip := by
  rw [Host.arpLookup, Host.neighbours]
  induction host.arpCache with
  | nil => rfl
  | cons entry rest ih =>
      rw [List.find?_cons, List.filter_cons]
      cases valid : entry.valid with
      | false => exact ih
      | true =>
          rw [Bool.true_and, if_pos rfl, List.map_cons, List.lookup_cons]
          by_cases same : entry.ip = ip
          · rw [decide_eq_true same, beq_iff_eq.mpr same.symm]
            rfl
          · rw [decide_eq_false same, beq_eq_false_iff_ne.mpr (Ne.symm same)]
            exact ih

/-- The entries in use come first. -/
structure Packed (cache known blanks : List ArpEntry) : Prop where
  split : cache = known ++ blanks
  valid : ∀ entry ∈ known, entry.valid = true
  free : ∀ entry ∈ blanks, entry.valid = false
  size : cache.length = arpCacheSize

theorem Packed.filter (packed : Packed cache known blanks) : cache.filter (·.valid) = known := by
  rw [packed.split, List.filter_append, List.filter_eq_self.mpr packed.valid,
    List.filter_eq_nil_iff.mpr fun entry member => Bool.not_eq_true _ ▸ packed.free entry member, List.append_nil]

theorem fillEntry_append (valid : ∀ entry ∈ known, entry.valid = true) :
    Host.fillEntry ip mac (known ++ blanks) = known ++ Host.fillEntry ip mac blanks := by
  induction known with
  | nil => rfl
  | cons entry rest ih =>
      rw [List.cons_append, Host.fillEntry, if_pos (valid entry List.mem_cons_self),
        ih fun other member => valid other (List.mem_cons_of_mem _ member)]
      rfl

theorem Packed.length_known (packed : Packed cache known blanks) : known.length + blanks.length = arpCacheSize := by
  rw [← List.length_append, ← packed.split]
  exact packed.size

/-- With a free entry, the new one comes behind those in use; else nothing happens. -/
theorem Packed.fillEntry (packed : Packed cache known blanks) :
    ∃ rest, Packed (Host.fillEntry ip mac cache)
      (if known.length < arpCacheSize then known ++ [{ ip, mac, valid := true }] else known) rest := by
  have length := packed.length_known
  cases blanks with
  | nil =>
      have full : ¬ known.length < arpCacheSize := by rw [← length]; exact Nat.lt_irrefl _
      refine ⟨[], ?_, ?_, nofun, ?_⟩
      · rw [if_neg full, packed.split, fillEntry_append packed.valid]
        rfl
      · rw [if_neg full]
        exact packed.valid
      · rw [packed.split, fillEntry_append packed.valid, List.length_append]
        exact length
  | cons blank rest =>
      have room : known.length < arpCacheSize := by
        rw [← length, List.length_cons]
        exact Nat.lt_add_of_pos_right (Nat.succ_pos _)
      have filled : Host.fillEntry ip mac cache = known ++ ({ ip, mac, valid := true } :: rest) := by
        rw [packed.split, fillEntry_append packed.valid, Host.fillEntry,
          if_neg (Bool.not_eq_true _ ▸ packed.free blank List.mem_cons_self)]
      refine ⟨rest, ?_, ?_, fun entry member => packed.free entry (List.mem_cons_of_mem _ member), ?_⟩
      · rw [if_pos room, filled, List.append_assoc]
        rfl
      · rw [if_pos room]
        intro entry member
        rcases List.mem_append.mp member with old | new
        · exact packed.valid entry old
        · rw [List.mem_singleton.mp new]
      · rw [filled, List.length_append]
        exact length

theorem Packed.neighbours (packed : Packed host.arpCache known blanks) :
    host.neighbours = known.map fun entry => (entry.ip, entry.mac) := by
  rw [Host.neighbours, packed.filter]

theorem arpFound_iff : (host.arpCache.any fun entry => entry.valid && entry.ip = ip) = true ↔ host.arpLookup ip ≠ none := by
  rw [Host.arpLookup, Ne, Option.map_eq_none_iff, List.find?_eq_none, List.any_eq_true]
  constructor
  · rintro ⟨entry, member, fits⟩ none
    exact none entry member fits
  · intro found
    by_contra absent
    exact found fun entry member fits => absent ⟨entry, member, fits⟩

theorem arpLearn_cache : (host.arpLearn packet).arpCache =
    if host.arpLookup (host.arpSenderIp packet) = none then
      Host.fillEntry (host.arpSenderIp packet) (host.arpSenderMac packet) host.arpCache
    else host.arpCache := by
  simp only [Host.arpLearn, touch_arpCache, touch_memory, arpFound_iff]
  by_cases absent : host.arpLookup (host.memory.loadWord (packet + 14)) = none
  · rw [if_neg (not_not_intro absent), Host.arpSenderIp, if_pos absent]
    rfl
  · rw [if_pos absent, Host.arpSenderIp, if_neg absent, touch_arpCache, touch_arpCache]

theorem arpAnswer_cache : (host.arpAnswer packet).arpCache = host.arpCache := by
  have transmits : Transmits (host.touch packet 4) (host.arpAnswer packet) := ethernetSend_transmits
  rw [transmits]
  exact touch_arpCache

theorem touch_arpLookup {address count : Nat} : (host.touch address count).arpLookup ip = host.arpLookup ip := by
  rw [Host.arpLookup, touch_arpCache, ← Host.arpLookup]

theorem touch_arpSenderIp {address count : Nat} : (host.touch address count).arpSenderIp packet = host.arpSenderIp packet := by
  rw [Host.arpSenderIp, touch_memory, ← Host.arpSenderIp]

theorem touch_arpSenderMac {address count : Nat} :
    (host.touch address count).arpSenderMac packet = host.arpSenderMac packet := by
  rw [Host.arpSenderMac, touch_memory, ← Host.arpSenderMac]

theorem arpReceive_cache : (host.arpReceive packet length).arpCache =
    if host.Hears packet length ∧ host.arpLookup (host.arpSenderIp packet) = none then
      Host.fillEntry (host.arpSenderIp packet) (host.arpSenderMac packet) host.arpCache
    else host.arpCache := by
  by_cases short : length < arpPacketSize
  · rw [Host.arpReceive, if_pos short, if_neg fun heard => Nat.not_le.mpr short heard.1.1]
  · by_cases own : host.memory.loadWord (packet + 24) = host.arpLocalIp
    · have heard : host.Hears packet length := ⟨Nat.not_lt.mp short, own⟩
      have learned : (((host.touch (packet + 6) 2).touch (packet + 24) 4).arpLearn packet).arpCache = _ := arpLearn_cache
      rw [touch_arpSenderIp, touch_arpSenderIp, touch_arpSenderMac, touch_arpSenderMac, touch_arpLookup,
        touch_arpLookup, touch_arpCache, touch_arpCache] at learned
      simp only [Host.arpReceive, if_neg short, touch_memory, touch_arpLocalIp, if_pos own, and_iff_right heard]
      split
      · exact arpAnswer_cache.trans learned
      · exact learned
    · rw [if_neg fun heard => own heard.1.2]
      simp only [Host.arpReceive, if_neg short, touch_memory, touch_arpLocalIp, if_neg own, touch_arpCache]

/-- What a packet does to the table in which who comes first stays. -/
def Host.heard (host : Host) : Hearing → List (Nat × Mac)
  | .packet packet length =>
      if host.Hears packet length then
        FirstCome.enter arpCacheSize host.neighbours (host.arpSenderIp packet) (host.arpSenderMac packet)
      else host.neighbours
  | .other _ => host.neighbours

theorem Packed.enter (packed : Packed host.arpCache known blanks) (fresh : host.arpLookup ip = none)
    (filled : after.arpCache = Host.fillEntry ip mac host.arpCache) :
    (∃ known blanks, Packed after.arpCache known blanks) ∧
      after.neighbours = FirstCome.enter arpCacheSize host.neighbours ip mac := by
  obtain ⟨rest, further⟩ : ∃ rest, Packed (Host.fillEntry ip mac host.arpCache) _ rest := packed.fillEntry
  rw [← filled] at further
  refine ⟨⟨_, _, further⟩, ?_⟩
  have length : host.neighbours.length = known.length := by rw [packed.neighbours, List.length_map]
  rw [arpLookup_neighbours] at fresh
  rw [FirstCome.enter, further.neighbours]
  by_cases room : known.length < arpCacheSize
  · rw [if_pos room, if_pos ⟨fresh, length ▸ room⟩, List.map_append, packed.neighbours]
    rfl
  · rw [if_neg room, if_neg fun contrary => room (length ▸ contrary.2), packed.neighbours]

/-- Packets change the cache as they change the table. -/
theorem Packed.hear {hearing : Hearing} (packed : Packed before.arpCache known blanks) :
    (∃ known blanks, Packed (before.hear hearing).arpCache known blanks) ∧
      (before.hear hearing).neighbours = before.heard hearing := by
  cases hearing with
  | other other => exact ⟨⟨known, blanks, packed⟩, rfl⟩
  | packet packet length =>
      rw [Host.hear, Host.heard]
      by_cases fresh : before.Hears packet length ∧ before.arpLookup (before.arpSenderIp packet) = none
      · rw [if_pos fresh.1]
        exact packed.enter fresh.2 (arpReceive_cache.trans (if_pos fresh))
      · have kept : (before.arpReceive packet length).arpCache = before.arpCache := arpReceive_cache.trans (if_neg fresh)
        refine ⟨⟨known, blanks, by rw [kept]; exact packed⟩, ?_⟩
        rw [Host.neighbours, kept, ← Host.neighbours]
        split
        · next heard =>
            have present : before.neighbours.lookup (before.arpSenderIp packet) ≠ none := by
              rw [← arpLookup_neighbours]
              exact fun absent => fresh ⟨heard, absent⟩
            rw [FirstCome.enter, if_neg fun contrary => present contrary.1]
        · rfl

/-- A packet is learned exactly when it is acceptable. -/
theorem Packed.learns_iff {hearing : Hearing} (packed : Packed before.arpCache known blanks) :
    Learns before hearing (before.hear hearing) ↔ Acceptable before hearing := by
  cases hearing with
  | other other => exact Iff.rfl
  | packet packet length =>
      refine imp_congr_right fun heard => ?_
      have entered : (before.hear (.packet packet length)).neighbours = _ := packed.hear.2.trans (if_pos heard)
      have others (ip : Nat) (mac : Mac) (different : ip ≠ before.arpSenderIp packet)
          (isKnown : before.arpLookup ip = some mac) :
          (before.hear (.packet packet length)).arpLookup ip = some mac := by
        rw [arpLookup_neighbours, entered, FirstCome.lookup_enter_other different, ← arpLookup_neighbours]
        exact isKnown
      rw [and_iff_left others, arpLookup_neighbours, entered, FirstCome.lookup_enter_iff, arpLookup_neighbours]

theorem arpInit_packed : Packed host.arpInit.arpCache [] host.arpInit.arpCache := by
  refine ⟨rfl, nofun, fun entry member => ?_, List.length_replicate⟩
  rw [List.eq_of_mem_replicate member]

/-- From any state that the cache can get to, every packet is learned exactly when every packet is acceptable. -/
theorem run_learns_iff {earlier hearings : List Hearing}
    (reached : Run (Stepping Host.hearing) host.arpInit earlier before)
    (run : Restricted Host.hearing (fun _ _ => True) before hearings after) :
    Observed Host.hearing Learns before hearings after ↔
      Restricted Host.hearing Acceptable before hearings after := by
  have packed : ∃ known blanks, Packed before.arpCache known blanks := by
    refine reached.invariant (fun host => ∃ known blanks, Packed host.arpCache known blanks) ?_ ⟨_, _, arpInit_packed⟩
    rintro before hearing after ⟨known, blanks, packed⟩ performed
    cases performed
    exact packed.hear.1
  refine run.observed_iff (fun host => ∃ known blanks, Packed host.arpCache known blanks) ?_ ?_ packed
  · rintro before hearing after ⟨known, blanks, packed⟩ _ performed
    cases performed
    exact packed.learns_iff
  · rintro before hearing after ⟨known, blanks, packed⟩ _ performed _
    cases performed
    exact packed.hear.1

/-- `arp_packet_t` with a given sender -/
def arpAnnouncement (senderMac : Mac) (senderIp : Nat) : List UInt8 :=
  { peerHost with localMac := senderMac, arpLocalIp := senderIp }.arpPacket (swap16 1) (swap16 0x0800) arpOpReply .zero
    0x0F02000A

/-- A packet arrives and is received. -/
def announce (senderMac : Mac) (senderIp : Nat) : List Hearing :=
  [.other (idleHost.withFrame 0x200000 (arpAnnouncement senderMac senderIp)), .packet 0x200000 28]

/-- Two neighbours, one of which is heard twice. -/
theorem run_learns_neighbours : ∃ after,
    (after.arpLookup 0x0302000A).map Mac.bytes = some peerHost.localMac.bytes ∧
      (Observed Host.hearing Learns idleHost.arpInit (announce peerHost.localMac 0x0302000A ++
          (announce idleHost.localMac 0x0402000A ++ announce peerHost.localMac 0x0302000A)) after ↔
        Restricted Host.hearing Acceptable idleHost.arpInit (announce peerHost.localMac 0x0302000A ++
          (announce idleHost.localMac 0x0402000A ++ announce peerHost.localMac 0x0302000A)) after) :=
  ⟨_, by decide +kernel, run_learns_iff (.nil _) (.foldl Host.hear _ _)⟩

/-- A run whose last packet is heard, but not learned. -/
theorem not_learned (front : List Hearing)
    (missed : (performAll Host.hearing (fun _ _ => true) host front).any (fun middle => middle.Hears packet length ∧
      ((middle.arpReceive packet length).arpLookup (middle.arpSenderIp packet)).map Mac.bytes ≠
        some (middle.arpSenderMac packet).bytes) = true) :
    ¬ Observed Host.hearing Learns host (front ++ [.packet packet length]) after := by
  intro observed
  obtain ⟨middle, reached, performed, learned⟩ := observed.last_observed
  cases performed
  rw [reached] at missed
  obtain ⟨heard, different⟩ := of_decide_eq_true missed
  have found := (learned heard).1
  rw [Host.hear] at found
  rw [found] at different
  exact different rfl

/-- The first eight neighbours take all entries and a ninth is not learned; nor is the new address of a neighbour. -/
theorem run_keeps_first :
    (∃ after, Run (Stepping Host.hearing) idleHost.arpInit
        ((List.range 9).flatMap fun index => announce peerHost.localMac (0x0302000A + 2 ^ 24 * index)) after ∧
      ¬ Observed Host.hearing Learns idleHost.arpInit
          ((List.range 9).flatMap fun index => announce peerHost.localMac (0x0302000A + 2 ^ 24 * index)) after) ∧
    ∃ after, Run (Stepping Host.hearing) idleHost.arpInit
        (announce peerHost.localMac 0x0302000A ++ announce .broadcast 0x0302000A) after ∧
      ¬ Observed Host.hearing Learns idleHost.arpInit
          (announce peerHost.localMac 0x0302000A ++ announce .broadcast 0x0302000A) after := by
  have runs (hearings : List Hearing) : Run (Stepping Host.hearing) idleHost.arpInit hearings
      (hearings.foldl Host.hear idleHost.arpInit) :=
    (Run.foldl Host.hear hearings idleHost.arpInit).mono fun _ _ _ performed => performed.2
  constructor
  · refine ⟨_, runs _, not_learned (((List.range 8).flatMap fun index =>
      announce peerHost.localMac (0x0302000A + 2 ^ 24 * index)) ++ [_]) ?_⟩
    decide +kernel
  · refine ⟨_, runs _, not_learned (announce peerHost.localMac 0x0302000A ++ [_]) ?_⟩
    decide +kernel

end AutismOS.Network
