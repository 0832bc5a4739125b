import Gfal2.UriAuthority

/-! How the replies of a GridFTP server to a request for passive mode are decoded, for the performance markers: one expression for
each form of a reply, and numbers that are read where its groups begin. -/

namespace Gfal2

open Base Regex

/-- What is reported of a data channel. -/
structure PassiveAddress where
  ip : CString := []
  port : Nat := 0
  isIpv6 : Bool := false
  deriving DecidableEq

/-- The size of the array for an address. -/
abbrev ipSize : Nat := 65

/-- `atoi(resp + matches[n].rm_so)` as an `unsigned`. -/
def numberAt (resp : CString) (found : Nat → Regmatch) (n : Nat) : Nat := toUInt32 (atol (resp.drop (found n).rmSo.toNat))

/-- `%u.%u.%u.%u` -/
def ipv4Text (h1 h2 h3 h4 : Nat) : CString :=
  (lit ".").intercalate [Nat.toDigits 10 h1, Nat.toDigits 10 h2, Nat.toDigits 10 h3, Nat.toDigits 10 h4]

/-- An IPv4 address and a port, read from six groups one after the other. -/
def readIpv4 (resp : CString) (found : Nat → Regmatch) (first : Nat) : PassiveAddress where
  ip := (ipv4Text (numberAt resp found first) (numberAt resp found (first + 1)) (numberAt resp found (first + 2))
    (numberAt resp found (first + 3))).take (ipSize - 1)
  port := (numberAt resp found (first + 4) * 256 + numberAt resp found (first + 5)) % 2 ^ 32

/-- `([0-9]+)` -/
def numberRegex (n : Nat) : Regex Char := .group n (.plus (.cls Char.isDigit))

/-- `([0-9]+),([0-9]+),` and so on, and what follows the last of them. -/
def numbersRegex (tail : Regex Char) : List Nat → Regex Char
  | [] => tail
  | [n] => .seq (numberRegex n) tail
  | n :: n' :: ns => .seq (numberRegex n) (.seq (.chr ',') (numbersRegex tail (n' :: ns)))

/-- `[^[0-9]` -/
def beforeNumbers (c : Char) : Bool := c ≠ '[' && !c.isDigit

/-- `[12]27 [^[0-9]+\(?([0-9]+),([0-9]+),([0-9]+),([0-9]+),([0-9]+),([0-9]+)\)?` -/
def pasvRegex : Regex Char :=
  .seq (.cls fun c => c = '1' || c = '2') (.seq (.chr '2') (.seq (.chr '7') (.seq (.chr ' ')
    (.seq (.plus (.cls beforeNumbers)) (.seq (.opt (.chr '(')) (numbersRegex (.opt (.chr ')')) [1, 2, 3, 4, 5, 6]))))))

/-- `([0-9]+),([0-9]+),([0-9]+),([0-9]+),([0-9]+),([0-9]+)` -/
def commasRegex : Regex Char := numbersRegex .eps [1, 2, 3, 4, 5, 6]

/-- `\|([0-9]*)\|([^|]*)\|([0-9]+)\|` -/
def barsRegex : Regex Char :=
  .seq (.chr '|') (.seq (.group 1 (.star (.cls Char.isDigit))) (.seq (.chr '|') (.seq (.group 2 (.star (.cls (noneOf (lit "|")))))
    (.seq (.chr '|') (.seq (numberRegex 3) (.chr '|'))))))

def parse27 (resp : CString) : Option PassiveAddress := (pasvRegex.search 0 resp).map fun found => readIpv4 resp found 1

/-- `parse_28`: not supported. -/
def parse28 (_resp : CString) : Option PassiveAddress := none

/-- The conversion of a `long` to `int`. -/
def longToInt (n : Int) : Int := Int.bmod n (2 ^ 32)

/-- What is put into the array for an address of a length. -/
def barsIp (isIpv6 : Bool) (address : CString) (length : Nat) : CString :=
  if length = 0 then []
  else if isIpv6 then (lit "[" ++ address.take (min length ipSize) ++ lit "]").take (ipSize - 1)
  -- the size of this copy counts the NUL
  else address.take (min length ipSize - 1)

def parse29Ipv6 (msg : CString) : Option PassiveAddress :=
  (barsRegex.search 0 msg).map fun found =>
    let isIpv6 := decide ((found 1).rmEo ≠ (found 1).rmSo ∧ longToInt (atol (msg.drop (found 1).rmSo.toNat)) = 2)
    { isIpv6
      ip := barsIp isIpv6 (msg.drop (found 2).rmSo.toNat) ((found 2).rmEo - (found 2).rmSo).toNat
      port := numberAt msg found 3 }

def parse29Ipv4 (msg : CString) : Option PassiveAddress := (commasRegex.search 0 msg).map fun found => readIpv4 msg found 0

def parse29 (msg : CString) : Option PassiveAddress := (parse29Ipv6 msg).or (parse29Ipv4 msg)

/-- `globus_ftp_control_response_class_t`. -/
inductive ResponseClass where
  | unknownReply
  | positivePreliminaryReply
  | positiveCompletionReply
  | positiveIntermediateReply
  | transientNegativeCompletionReply
  | permanentNegativeCompletionReply
  deriving DecidableEq

/-- `globus_ftp_control_response_t`. -/
structure FtpResponse where
  responseClass : ResponseClass
  code : Nat
  responseBuffer : CString

/-- `gfal2_ftp_client_pasv_response`, as far as the address and the port go. -/
def pasvResponse (response : FtpResponse) : Option PassiveAddress :=
  match response.responseClass with
  | .positivePreliminaryReply | .positiveCompletionReply =>
      match response.code % 100 with
      | 27 => parse27 response.responseBuffer
      | 28 => parse28 response.responseBuffer
      | 29 => parse29 response.responseBuffer
      | _ => none
  | _ => none

/-! ### The numbers -/

theorem groups_numbersRegex (tail : Regex Char) (ids : List Nat) : (numbersRegex tail ids).groups = ids ++ tail.groups := by
  induction ids with
  | nil => rfl
  | cons n ids ih =>
      cases ids with
      | nil => rfl
      | cons n' ids =>
          rw [numbersRegex, groups, groups, ih]
          rfl

/-- Numbers with commas between them are matched. -/
theorem mem_numbersRegex {tail : Regex Char} {ids : List Nat} {parts : List CString} {t : CString}
    (hlength : parts.length = ids.length) (hparts : ∀ p ∈ parts, isDigits p = true) (ht : t ∈ tail.lang) :
    (lit ",").intercalate parts ++ t ∈ (numbersRegex tail ids).lang := by
  induction ids generalizing parts with
  | nil =>
      obtain rfl := List.length_eq_zero_iff.mp hlength
      exact ht
  | cons n ids ih =>
      obtain ⟨p, parts, rfl⟩ := List.exists_cons_of_length_eq_add_one hlength
      obtain ⟨hp, hrest⟩ := List.forall_mem_cons.mp hparts
      have hnumber : p ∈ (numberRegex n).lang := mem_plus_cls.mpr (isDigits_iff.mp hp)
      have hlength' : parts.length = ids.length := by simpa using hlength
      cases ids with
      | nil =>
          obtain rfl := List.length_eq_zero_iff.mp hlength'
          rw [List.intercalate_singleton]
          exact append_mem_seq hnumber ht
      | cons n' ids =>
          obtain ⟨p', parts, rfl⟩ := List.exists_cons_of_length_eq_add_one hlength'
          rw [List.intercalate_cons_cons, List.append_assoc, List.append_assoc]
          exact append_mem_seq hnumber (append_mem_seq (mem_chr.mpr rfl) (ih hlength' hrest))

/-- The parts of a match of numbers, and where each group begins. -/
theorem assign_numbersRegex {tail : Regex Char} {ids : List Nat} (hids : (ids ++ tail.groups).Nodup) (hne : ids ≠ []) {m : CString}
    (hm : m ∈ (numbersRegex tail ids).lang) (start : Nat) :
    ∃ parts t, parts.length = ids.length ∧ m = (lit ",").intercalate parts ++ t ∧ t ∈ tail.lang ∧
      (∀ p ∈ parts, isDigits p = true) ∧
      ∀ j (hj : j < ids.length), ∃ before range, m = before ++ ((lit ",").intercalate (parts.drop j) ++ t) ∧
        capture ids[j] ((numbersRegex tail ids).assign start m) = some range ∧
          range.rmSo = ((start + before.length : Nat) : Int) := by
  induction ids generalizing start m with
  | nil => exact absurd rfl hne
  | cons n ids ih =>
      rw [List.cons_append, List.nodup_cons] at hids
      obtain ⟨hn, hids⟩ := hids
      have hgroup : n ∉ (Regex.plus (.cls Char.isDigit)).groups := List.not_mem_nil
      cases ids with
      | nil =>
          obtain ⟨p, t, rfl, hp, ht, hassign, -⟩ := assign_seq hm start
          refine ⟨[p], t, rfl, by rw [List.intercalate_singleton], ht, ?_, fun j hj => ?_⟩
          · simpa using isDigits_iff.mpr (mem_plus_cls.mp hp)
          · obtain rfl : j = 0 := by simpa using hj
            refine ⟨[], ⟨start, start + p.length⟩, by simp, ?_, rfl⟩
            rw [numbersRegex, hassign, capture_append, List.getElem_cons_zero, capture_assign_of_notMem hn, Option.none_or]
            exact capture_group hgroup start p
      | cons n' ids =>
          obtain ⟨p, b, rfl, hp, hb, hassign, -⟩ := assign_seq hm start
          obtain ⟨c, rfl, hc, hcomma⟩ := assign_chr_seq hb (start + p.length)
          obtain ⟨parts, t, hlength, rfl, ht, hparts, hgroups⟩ := ih hids (List.cons_ne_nil _ _) hc (start + p.length + 1)
          obtain ⟨p', parts, rfl⟩ := List.exists_cons_of_length_eq_add_one hlength
          refine ⟨p :: p' :: parts, t, by simpa using hlength, ?_, ht, ?_, fun j hj => ?_⟩
          · rw [List.intercalate_cons_cons, List.append_assoc, List.append_assoc]
            rfl
          · exact List.forall_mem_cons.mpr ⟨isDigits_iff.mpr (mem_plus_cls.mp hp), hparts⟩
          · cases j with
            | zero =>
                refine ⟨[], ⟨start, start + p.length⟩, ?_, ?_, rfl⟩
                · rw [List.drop_zero, List.nil_append, List.intercalate_cons_cons, List.append_assoc, List.append_assoc]
                  rfl
                · rw [numbersRegex, hassign, hcomma, capture_append, List.getElem_cons_zero,
                    capture_assign_of_notMem (by rw [groups_numbersRegex]; exact hn), Option.none_or]
                  exact capture_group hgroup start p
            | succ j =>
                obtain ⟨before, range, hbefore, hrange, hso⟩ := hgroups j (by simpa using hj)
                refine ⟨p ++ ',' :: before, range, ?_, ?_, ?_⟩
                · rw [hbefore, List.drop_succ_cons, List.append_assoc]
                  rfl
                · rw [numbersRegex, hassign, hcomma, capture_append, List.getElem_cons_succ, hrange, Option.some_or]
                · rw [hso, List.length_append, List.length_cons]
                  congr 1
                  omega

end Gfal2
