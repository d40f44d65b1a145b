import Ansible.Lib.Base64
import Ansible.Lib.JsonParse

/-!
# Compact JWTs

A header, claims and a signature, each in base 64 and with a dot between each two.  The signature
is over the text before the last dot.

## Main definitions

* `Jwt.decodeJwt` — reading.
* `Jwt.unsigned`, `Jwt.compact` — writing, with an encoder of strings.

## Main results

* `Jwt.decodeJwt_compact` — what is written is read back.
-/

namespace Ansible

theorem exists_of_mem_urlBase64Bytes {b : Binary} {x : UInt8} (h : x ∈ urlBase64Bytes b) :
    ∃ n < 64, x = urlBase64Byte n := by
  induction b using urlBase64Bytes.induct with
  | case1 => exact absurd h List.not_mem_nil
  | case2 a =>
    have ha := a.toNat_lt
    simp only [urlBase64Bytes, List.mem_cons, List.not_mem_nil, or_false] at h
    rcases h with rfl | rfl
    · exact ⟨_, by omega, rfl⟩
    · exact ⟨_, by omega, rfl⟩
  | case3 a b =>
    have ha := a.toNat_lt
    have hb := b.toNat_lt
    simp only [urlBase64Bytes, List.mem_cons, List.not_mem_nil, or_false] at h
    rcases h with rfl | rfl | rfl
    · exact ⟨_, by omega, rfl⟩
    · exact ⟨_, by omega, rfl⟩
    · exact ⟨_, by omega, rfl⟩
  | case4 a b c r ih =>
    have ha := a.toNat_lt
    have hb := b.toNat_lt
    have hc := c.toNat_lt
    simp only [urlBase64Bytes, List.mem_cons] at h
    rcases h with rfl | rfl | rfl | rfl | h
    · exact ⟨_, by omega, rfl⟩
    · exact ⟨_, by omega, rfl⟩
    · exact ⟨_, by omega, rfl⟩
    · exact ⟨_, by omega, rfl⟩
    · exact ih h

namespace Jwt

structure Decoded where
  header : Json
  claims : Json
  signed : Binary
  signature : Binary

def decodeJwt (compact : Binary) : Option Decoded :=
  match compact.splitOn 46 with
  | [encodedHeader, encodedClaims, encodedSignature] => do
    let headerJson ← decodeUrl64 encodedHeader
    let claimsJson ← decodeUrl64 encodedClaims
    let signature ← decodeUrl64 encodedSignature
    let header ← Json.decodeBytes headerJson
    let claims ← Json.decodeBytes claimsJson
    if header.isObj && claims.isObj then
      some ⟨header, claims, encodedHeader ++ 46 :: encodedClaims, signature⟩
    else none
  | _ => none

/-- What is signed. -/
def unsigned (escape : Char → Text) (header claims : Json) : Text :=
  encodeUrl64 (Json.encodeWith escape header).utf8 ++
    '.' :: encodeUrl64 (Json.encodeWith escape claims).utf8

def compact (escape : Char → Text) (header claims : Json) (signature : Binary) : Text :=
  unsigned escape header claims ++ '.' :: encodeUrl64 signature

theorem dot_not_mem_encodeUrl64 (b : Binary) : (46 : UInt8) ∉ (encodeUrl64 b).utf8 := by
  rw [utf8_encodeUrl64]
  intro hmem
  obtain ⟨n, hn, heq⟩ := exists_of_mem_urlBase64Bytes hmem
  have hall : ∀ n < 64, (46 : UInt8) ≠ urlBase64Byte n := by decide +kernel
  exact hall n hn heq

theorem decodeBytes_encodeWith {escape : Char → Text} (hescape : Json.ReadBack escape) {v : Json}
    (h : v.Determined) : Json.decodeBytes (Json.encodeWith escape v).utf8 = some v := by
  rw [Json.decodeBytes, decodeUtf8_utf8, if_pos rfl, Json.decode_encodeWith hescape h]

/-- **What is signed and its signature are read back.** -/
theorem decodeJwt_compact {escape : Char → Text} (hescape : Json.ReadBack escape)
    {header claims : Json} (hheader : header.Determined) (hclaims : claims.Determined)
    (hobj : header.isObj = true ∧ claims.isObj = true) (signature : Binary) :
    decodeJwt (compact escape header claims signature).utf8 =
      some ⟨header, claims, (unsigned escape header claims).utf8, signature⟩ := by
  have hutf8 : ∀ t u : Text, (t ++ '.' :: u).utf8 = t.utf8 ++ 46 :: u.utf8 := by
    intro t u
    rw [Text.utf8, List.flatMap_append, List.flatMap_cons]
    rfl
  let parts : List Binary := [(encodeUrl64 (Json.encodeWith escape header).utf8).utf8,
    (encodeUrl64 (Json.encodeWith escape claims).utf8).utf8, (encodeUrl64 signature).utf8]
  have hsplit : (compact escape header claims signature).utf8.splitOn 46 = parts := by
    have hparts : ([46].intercalate parts).splitOn 46 = parts :=
      List.splitOn_intercalate _ (by simp [parts, dot_not_mem_encodeUrl64])
        (List.cons_ne_nil _ _)
    rw [← hparts, compact, hutf8, unsigned, hutf8]
    congr 1
    simp [parts, List.intercalate]
  rw [decodeJwt, hsplit]
  simp only [parts, decodeUrl64_encodeUrl64, decodeBytes_encodeWith hescape hheader,
    decodeBytes_encodeWith hescape hclaims, hobj.1, hobj.2, Option.bind_eq_bind,
    Option.bind_some, Bool.and_true, if_true]
  rw [unsigned, hutf8]

end Jwt

end Ansible
