import ConnmanService.Service

/-! # The WFD device-information parser

`p2p_parse_wfd_dev_info` reads the Wi-Fi Display device-information sub-element out of
a peer's `WiFiDisplayIEs` byte blob: sub-element id `0`, a two-byte length `6`, the
device-information bitmap (bytes 3-4) and the RTSP port (bytes 5-6, big-endian).

The length check is written `b[1] != 0x00 && b[2] != 0x06`, so it rejects a header
only when *both* length bytes are wrong.  `wfdAccepts` is the condition the code
really tests, and `p2pParseWfdDevInfo_eq` says the parser either leaves the peer as it
is or writes all five capability fields from the blob.  `wfdHeaderValid` is the
header the spec describes (`b[1] = 0` and `b[2] = 6`), which `wfdAccepts` weakens to
`b[1] = 0` or `b[2] = 6`. -/

namespace ConnmanService

/-- `Bit0`. -/
def bit0 : Nat := 0x01

/-- `Bit1`. -/
def bit1 : Nat := 0x02

/-- `p2p_parse_wfd_dev_info (wfd_subelems, len, peer)` with `len` the blob's length.  The
bytes are `unsigned char`s promoted to `int` before the masks and shifts. -/
def p2pParseWfdDevInfo (wfdSubelems : List UInt8) (peer : Peer) : Peer :=
  let b := fun i => (wfdSubelems.getD i 0).toNat
  if wfdSubelems.length < 9 then peer
  else if b 0 ≠ 0x00 then peer
  else if b 1 ≠ 0x00 ∧ b 2 ≠ 0x06 then peer
  else
    { peer with
      wfdEnabled := true
      wfdDevtype := b 4 &&& (bit0 ||| bit1)
      wfdSessionavail := (b 4 >>> 4) &&& (bit0 ||| bit1)
      wfdCpsupport := b 3 &&& bit0
      wfdRtspport := (b 5 <<< 8) + b 6 }

/-- The headers `p2p_parse_wfd_dev_info` accepts. -/
def wfdAccepts (b : List UInt8) : Prop :=
  9 ≤ b.length ∧ (b.getD 0 0).toNat = 0 ∧ ((b.getD 1 0).toNat = 0 ∨ (b.getD 2 0).toNat = 6)

instance (b : List UInt8) : Decidable (wfdAccepts b) :=
  inferInstanceAs (Decidable (_ ∧ _))

/-- The header the spec describes: length at least 9, id `0`, length field `0x0006`. -/
def wfdHeaderValid (b : List UInt8) : Prop :=
  9 ≤ b.length ∧ (b.getD 0 0).toNat = 0 ∧ (b.getD 1 0).toNat = 0 ∧ (b.getD 2 0).toNat = 6

instance (b : List UInt8) : Decidable (wfdHeaderValid b) :=
  inferInstanceAs (Decidable (_ ∧ _))

/-- The capability fields a blob carries: the device type and session availability in
bits 0-1 and 4-5 of byte 4, content protection in bit 0 of byte 3, the RTSP port in
bytes 5-6, big-endian. -/
def wfdFields (b : List UInt8) (peer : Peer) : Peer :=
  { peer with
    wfdEnabled := true
    wfdDevtype := (b.getD 4 0).toNat % 4
    wfdSessionavail := (b.getD 4 0).toNat / 16 % 4
    wfdCpsupport := (b.getD 3 0).toNat % 2
    wfdRtspport := 256 * (b.getD 5 0).toNat + (b.getD 6 0).toNat }

theorem and_bit01 (n : Nat) : n &&& (bit0 ||| bit1) = n % 4 :=
  Nat.and_pow_two_sub_one_eq_mod n 2

theorem and_bit0 (n : Nat) : n &&& bit0 = n % 2 := Nat.and_one_is_mod n

/-- The parser writes all five capability fields from an accepted blob and leaves the
peer alone otherwise. -/
theorem p2pParseWfdDevInfo_eq (b : List UInt8) (peer : Peer) :
    p2pParseWfdDevInfo b peer = if wfdAccepts b then wfdFields b peer else peer := by
  by_cases h : wfdAccepts b
  · obtain ⟨h9, h0, h12⟩ := h
    rw [if_pos ⟨h9, h0, h12⟩]
    unfold p2pParseWfdDevInfo; dsimp only
    rw [if_neg (by omega), if_neg (by omega), if_neg (by omega)]
    simp only [wfdFields, and_bit01, and_bit0, Nat.shiftRight_eq_div_pow, Nat.shiftLeft_eq]
    congr 1; omega
  · rw [if_neg h]
    unfold p2pParseWfdDevInfo; dsimp only
    split_ifs
    iterate 3 rfl
    exact absurd ⟨by omega, by omega, by omega⟩ h

end ConnmanService
