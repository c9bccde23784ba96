import AutismOS.Library.OnesComplement
import AutismOS.Network.Stack

namespace AutismOS.Network

open AutismOS.Library AutismOS.Library.OnesComplement

variable {data front back segment : List UInt8} {sum value srcIp dstIp : Nat}

/-- `icmp_checksum` -/
def icmpChecksum (data : List UInt8) : Nat :=
  let sum := addWords 0 data
  let sum := sum / 2 ^ 16 + sum % 2 ^ 16
  let sum := add32 sum (sum / 2 ^ 16)
  2 ^ 16 - 1 - sum % 2 ^ 16

/-- None of the additions of `addWords` wraps around. -/
def WordsFit : Nat → List UInt8 → Prop
  | _, [] => True
  | sum, [last] => sum + last.toNat < 2 ^ 32
  | sum, low :: high :: rest =>
      sum + (low.toNat + 2 ^ 8 * high.toNat) < 2 ^ 32 ∧ WordsFit (add32 sum (low.toNat + 2 ^ 8 * high.toNat)) rest

/-- Neither does an addition of a carry, in the two lines of the one or in the loop of the other. -/
def CarriesFit (sum : Nat) : Prop :=
  let first := sum / 2 ^ 16 + sum % 2 ^ 16
  first < 2 ^ 32 ∧ first + first / 2 ^ 16 < 2 ^ 32 ∧ first % 2 ^ 16 + first / 2 ^ 16 < 2 ^ 32

/-- A message with a number in a field of two bytes. -/
def withField (front back : List UInt8) (value : Nat) : List UInt8 := front ++ bytes16 value ++ back

/-- Nothing wraps around on the way to the checksums of a message, the loop of `tcp_checksum` ends, and the
other two agree with each other and with full folding. -/
structure Summed (srcIp dstIp : Nat) (data : List UInt8) : Prop where
  words : WordsFit 0 data
  carries : CarriesFit (addWords 0 data)
  pseudoWords : WordsFit 0 (pseudoHeader srcIp dstIp data.length)
  tcpWords : WordsFit (addWords 0 (pseudoHeader srcIp dstIp data.length)) data
  tcpCarries : CarriesFit (addWords (addWords 0 (pseudoHeader srcIp dstIp data.length)) data)
  tcpEnds : fold 2 (addWords (addWords 0 (pseudoHeader srcIp dstIp data.length)) data) < 2 ^ 16
  agrees : icmpChecksum data = ipChecksum data
  folds : ipChecksum data = 2 ^ 16 - 1 - endAround (wordSum data)

theorem addWords_fits (small : sum + wordSum data < 2 ^ 32) :
    addWords sum data = sum + wordSum data ∧ WordsFit sum data := by
  induction sum, data using addWords.induct with
  | case1 sum => exact ⟨rfl, trivial⟩
  | case2 sum last =>
      rw [wordSum] at small
      exact ⟨add32_of_lt small, small⟩
  | case3 sum low high rest ih =>
      rw [wordSum] at small
      have first : sum + (low.toNat + 2 ^ 8 * high.toNat) < 2 ^ 32 := by omega
      have added : add32 sum (low.toNat + 2 ^ 8 * high.toNat) = sum + (low.toNat + 2 ^ 8 * high.toNat) :=
        add32_of_lt first
      obtain ⟨sums, fits⟩ := ih (by omega)
      refine ⟨?_, first, fits⟩
      rw [addWords, sums, wordSum, added]
      omega

theorem carriesFit (small : sum < 2 ^ 32) : CarriesFit sum := by
  unfold CarriesFit
  dsimp only
  omega

/-- The loop of `tcp_checksum` ends after two rounds at most. -/
theorem fold_eq (small : sum < 2 ^ 32) (rounds : Nat) : fold (rounds + 2) sum = endAround sum := by
  have round (rounds : Nat) (sum : Nat) : fold (rounds + 1) sum =
      if sum < 2 ^ 16 then sum else fold rounds (sum % 2 ^ 16 + sum / 2 ^ 16) := by
    rw [fold]
    by_cases none : sum < 2 ^ 16
    · rw [if_pos (Nat.div_eq_of_lt none), if_pos none]
    · rw [if_neg (by omega), if_neg none]
  have ended (rounds : Nat) {sum : Nat} (none : sum < 2 ^ 16) : fold rounds sum = sum := by
    cases rounds with
    | zero => rfl
    | succ rounds => rw [round, if_pos none]
  rw [round]
  by_cases none : sum < 2 ^ 16
  · rw [if_pos none, endAround_small none]
  · rw [if_neg none, endAround_step (Nat.not_lt.mp none), round]
    have bounded : sum % 2 ^ 16 + sum / 2 ^ 16 < 2 ^ 17 - 1 := by omega
    generalize sum % 2 ^ 16 + sum / 2 ^ 16 = first at bounded ⊢
    by_cases done : first < 2 ^ 16
    · rw [if_pos done, endAround_small done]
    · have last : first % 2 ^ 16 + first / 2 ^ 16 < 2 ^ 16 := by omega
      rw [if_neg done, endAround_step (Nat.not_lt.mp done), endAround_small last, ended rounds last]

theorem wordSum_short (short : data.length ≤ 65535) : wordSum data ≤ 2 ^ 31 := by
  have bound : wordSum data ≤ (data.length + 1) / 2 * (2 ^ 16 - 1) := wordSum_le
  have half : (data.length + 1) / 2 ≤ 2 ^ 15 := by omega
  omega

theorem icmpChecksum_eq_ipChecksum : icmpChecksum data = ipChecksum data := rfl

/-- Two lines of carries are as good as full folding. -/
theorem ipChecksum_eq (short : data.length ≤ 65535) : ipChecksum data = 2 ^ 16 - 1 - endAround (wordSum data) := by
  have bound := wordSum_short short
  have sums : addWords 0 data = wordSum data := (addWords_fits (by omega)).1.trans (Nat.zero_add _)
  rw [ipChecksum, sums, ← two_rounds (by omega), add32_of_lt (by omega)]

theorem length_pseudoHeader {tcpLen : Nat} : (pseudoHeader srcIp dstIp tcpLen).length = 12 := rfl

theorem pseudoHeader_le {tcpLen : Nat} : wordSum (pseudoHeader srcIp dstIp tcpLen) ≤ 6 * (2 ^ 16 - 1) := by
  have bound : wordSum (pseudoHeader srcIp dstIp tcpLen) ≤
      ((pseudoHeader srcIp dstIp tcpLen).length + 1) / 2 * (2 ^ 16 - 1) := wordSum_le
  rw [length_pseudoHeader] at bound
  exact bound

/-- The sum over the pseudo header goes on over the segment. -/
theorem tcpSum_eq (short : segment.length ≤ 65535) :
    addWords (addWords 0 (pseudoHeader srcIp dstIp segment.length)) segment =
        wordSum (pseudoHeader srcIp dstIp segment.length ++ segment) ∧
      WordsFit 0 (pseudoHeader srcIp dstIp segment.length) ∧
      WordsFit (addWords 0 (pseudoHeader srcIp dstIp segment.length)) segment ∧
      wordSum (pseudoHeader srcIp dstIp segment.length ++ segment) < 2 ^ 32 := by
  have bound := wordSum_short short
  have headed : wordSum (pseudoHeader srcIp dstIp segment.length) ≤ 6 * (2 ^ 16 - 1) := pseudoHeader_le
  have even : (pseudoHeader srcIp dstIp segment.length).length % 2 = 0 := by rw [length_pseudoHeader]
  rw [wordSum_append even]
  obtain ⟨first, firstFits⟩ : addWords 0 (pseudoHeader srcIp dstIp segment.length) = _ ∧ WordsFit 0 _ :=
    addWords_fits (by omega)
  rw [Nat.zero_add] at first
  rw [first]
  obtain ⟨second, secondFits⟩ : addWords (wordSum (pseudoHeader srcIp dstIp segment.length)) segment = _ ∧ WordsFit _ _ :=
    addWords_fits (by omega)
  exact ⟨second, firstFits, secondFits, by omega⟩

theorem tcpChecksum_eq (short : segment.length ≤ 65535) : tcpChecksum srcIp dstIp segment =
    2 ^ 16 - 1 - endAround (wordSum (pseudoHeader srcIp dstIp segment.length ++ segment)) := by
  obtain ⟨sums, _, _, small⟩ : addWords (addWords 0 (pseudoHeader srcIp dstIp segment.length)) segment = _ ∧ _ :=
    tcpSum_eq short
  rw [tcpChecksum, sums, fold_eq small, Nat.mod_eq_of_lt (endAround_lt _)]

theorem summed (short : data.length ≤ 65535) : Summed srcIp dstIp data := by
  have bound := wordSum_short short
  obtain ⟨sums, fits⟩ : addWords 0 data = _ ∧ WordsFit 0 data := addWords_fits (by omega)
  rw [Nat.zero_add] at sums
  obtain ⟨tcpSums, pseudoFits, tcpFits, small⟩ :
      addWords (addWords 0 (pseudoHeader srcIp dstIp data.length)) data = _ ∧ _ := tcpSum_eq short
  constructor
  · exact fits
  · rw [sums]
    exact carriesFit (by omega)
  · exact pseudoFits
  · exact tcpFits
  · rw [tcpSums]
    exact carriesFit small
  · rw [tcpSums, fold_eq small]
    exact endAround_lt _
  · exact icmpChecksum_eq_ipChecksum
  · exact ipChecksum_eq short

theorem wordSum_withField (aligned : front.length % 2 = 0) (small : value < 2 ^ 16) :
    wordSum (withField front back value) = wordSum (withField front back 0) + value := by
  have field {value : Nat} (small : value < 2 ^ 16) : wordSum (bytes16 value) = value := by
    rw [bytes16, wordSum, wordSum]
    simp only [UInt8.toNat_ofNat']
    omega
  have sums {value : Nat} (small : value < 2 ^ 16) :
      wordSum (withField front back value) = wordSum front + value + wordSum back := by
    have even : (front ++ bytes16 value).length % 2 = 0 := by
      rw [List.length_append, length_bytes16]
      omega
    rw [withField, wordSum_append even, wordSum_append aligned, field small]
  rw [sums small, sums (Nat.two_pow_pos 16)]
  omega

/-- The complement of the sum over the message without it completes the message. -/
theorem verified_withField (aligned : front.length % 2 = 0)
    (isComplement : value = 2 ^ 16 - 1 - endAround (wordSum (withField front back 0))) :
    Verified (withField front back value) := by
  have small : value < 2 ^ 16 := by omega
  rw [verified_iff, wordSum_withField aligned small, isComplement]
  exact endAround_complement _

/-- A message with its checksum adds up to zero, whichever of the routines it is from. -/
theorem checksums_verify (front back : List UInt8) (srcIp dstIp : Nat) (aligned : front.length % 2 = 0)
    (short : (withField front back 0).length ≤ 65535) :
    Verified (withField front back (ipChecksum (withField front back 0))) ∧
      Verified (withField front back (icmpChecksum (withField front back 0))) ∧
      Verified (pseudoHeader srcIp dstIp (withField front back 0).length ++
        withField front back (tcpChecksum srcIp dstIp (withField front back 0))) ∧
      ∀ data : List UInt8, data.length ≤ 65535 → Summed srcIp dstIp data := by
  refine ⟨verified_withField aligned (ipChecksum_eq short), ?_, ?_, fun data => summed⟩
  · rw [icmpChecksum_eq_ipChecksum]
    exact verified_withField aligned (ipChecksum_eq short)
  · have headed (value : Nat) : pseudoHeader srcIp dstIp (withField front back 0).length ++ withField front back value =
        withField (pseudoHeader srcIp dstIp (withField front back 0).length ++ front) back value := by
      simp only [withField, List.append_assoc]
    have even : (pseudoHeader srcIp dstIp (withField front back 0).length ++ front).length % 2 = 0 := by
      rw [List.length_append, length_pseudoHeader]
      omega
    rw [headed]
    refine verified_withField even ?_
    rw [tcpChecksum_eq short, headed]

/-- An echo request with an odd byte of data. -/
theorem checksums_verify_echo :
    Verified (withField [8, 0] [0, 1, 0, 7, 65] (ipChecksum (withField [8, 0] [0, 1, 0, 7, 65] 0))) :=
  (checksums_verify [8, 0] [0, 1, 0, 7, 65] 0 0 (by decide) (by decide)).1

end AutismOS.Network
