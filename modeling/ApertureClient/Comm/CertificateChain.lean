import ApertureClient.Comm.Exception
import ApertureClient.Ownership.References

/-!
# Certificates of an `SSL_CTX`

`set_tls_certificate` parses the certificates of a PEM text and puts them into a context: the
first as its certificate, the others as its chain.  The two calls of OpenSSL that take a
certificate treat it differently.  `SSL_CTX_use_certificate` adds a reference, so that the
`OpenSSLPointer` of the caller keeps its own; `SSL_CTX_add0_chain_cert` stores the pointer, and
the reference of the caller is the one that the context has from then on.

The model follows the objects by their reference counts.  Which of the calls fail is an
argument, `fails`, by the number of the call.
-/

namespace Comm

open Ownership

/-- A certificate object, by its number. -/
abbrev X509 := ℕ

/-- `OpenSSLPointer<X509>`. -/
abbrev OpenSSLPointer := Option X509

/-- The objects of OpenSSL that `set_tls_certificate` works on. -/
structure OpenSSL where
  certificates : References := {}
  /-- The certificate of the context. -/
  certificate : Option X509 := none
  /-- The chain of the context. -/
  chain : List X509 := []
  /-- How many certificates of the text have not been read. -/
  unread : ℕ := 0
  /-- How many calls were made. -/
  calls : ℕ := 0

namespace OpenSSL

variable (fails : ℕ → Bool)

/-- Make a call: whether it fails, and the objects behind it if it does. -/
def call (s : OpenSSL) : Bool × OpenSSL := (fails s.calls, { s with calls := s.calls + 1 })

/-- `BIO_new_mem_buf`, for a text with `text` certificates. -/
def bioNewMemBuf (text : ℕ) (s : OpenSSL) : Bool × OpenSSL :=
  let (failed, s) := s.call fails
  if failed then (false, s) else (true, { s with unread := text })

/-- `PEM_read_bio_X509`, and `PEM_read_bio_X509_AUX`: a new object, if there is a certificate. -/
def pemReadBioX509 (s : OpenSSL) : OpenSSLPointer × OpenSSL :=
  let (failed, s) := s.call fails
  if failed ∨ s.unread = 0 then (none, s)
  else
    let (x509, certificates) := s.certificates.make
    (some x509, { s with certificates := certificates, unread := s.unread - 1 })

/-- `X509_free`. -/
def x509Free (x509 : X509) (s : OpenSSL) : OpenSSL :=
  { s with certificates := s.certificates.release x509 }

/-- `SSL_CTX_use_certificate`: the context gives up the certificate that it had. -/
def sslCtxUseCertificate (x509 : X509) (s : OpenSSL) : Bool × OpenSSL :=
  let (failed, s) := s.call fails
  if failed then (false, s)
  else (true, { s with
    certificates := (s.certificates.retain x509).releaseAll s.certificate.toList
    certificate := some x509 })

/-- `SSL_CTX_clear_chain_certs`. -/
def sslCtxClearChainCerts (s : OpenSSL) : Bool × OpenSSL :=
  let (failed, s) := s.call fails
  if failed then (false, s)
  else (true, { s with certificates := s.certificates.releaseAll s.chain, chain := [] })

/-- `SSL_CTX_add0_chain_cert`: the pointer is stored and no reference is added. -/
def sslCtxAdd0ChainCert (x509 : X509) (s : OpenSSL) : Bool × OpenSSL :=
  let (failed, s) := s.call fails
  if failed then (false, s) else (true, { s with chain := s.chain ++ [x509] })

end OpenSSL

namespace OpenSSLPointer

/-- The destructor of an `OpenSSLPointer<X509>`. -/
def destroy (pointer : OpenSSLPointer) (s : OpenSSL) : OpenSSL :=
  match pointer with
  | some x509 => s.x509Free x509
  | none => s

/-- `reset(other)`: the object that was there is released. -/
def reset (pointer other : OpenSSLPointer) (s : OpenSSL) : OpenSSLPointer × OpenSSL :=
  (other, destroy pointer s)

end OpenSSLPointer

open OpenSSL

variable (fails : ℕ → Bool)

/-- `while (x509_ca) { .. }`, for at most `fuel` certificates, and the end of the scope of
`x509_ca`. -/
def addChainCerts : ℕ → OpenSSLPointer → OpenSSL → Except Exception Unit × OpenSSL
  | 0, x509Ca, s => (.ok (), OpenSSLPointer.destroy x509Ca s)
  | _ + 1, none, s => (.ok (), s)
  | fuel + 1, some x509Ca, s =>
      let (res, s) := sslCtxAdd0ChainCert fails x509Ca s
      if !res then
        (.error (exception .tlsError "Unable to load the certificate"),
          OpenSSLPointer.destroy (some x509Ca) s)
      else
        let (next, s) := pemReadBioX509 fails s
        let (x509Ca, s) := OpenSSLPointer.reset (some x509Ca) next s
        addChainCerts fuel x509Ca s

/-- What follows `SSL_CTX_use_certificate`. -/
def chainCertificates (text : ℕ) (s : OpenSSL) : Except Exception Unit × OpenSSL :=
  let (res, s) := sslCtxClearChainCerts fails s
  if !res then (.error (exception .tlsError "Unable to load the certificate"), s)
  else
    let (x509Ca, s) := pemReadBioX509 fails s
    addChainCerts fails text x509Ca s

/-- What follows the reading of the certificate, up to the end of the scope of `x509`. -/
def useCertificate (x509 : X509) (text : ℕ) (s : OpenSSL) : Except Exception Unit × OpenSSL :=
  let (res, s) := sslCtxUseCertificate fails x509 s
  if !res then (.error (exception .tlsError "Unable to load the certificate"), s)
  else chainCertificates fails text s

/-- `set_tls_certificate(ssl_ctx, tls_certificate)`, for a text with `text` certificates. -/
def setTlsCertificate (text : ℕ) (s : OpenSSL) : Except Exception Unit × OpenSSL :=
  let (bio, s) := bioNewMemBuf fails text { s with calls := 0 }
  if !bio then
    (.error (exception .tlsError "Unable to allocate memory for the certificate"), s)
  else
    match pemReadBioX509 fails s with
    | (none, s) => (.error (exception .tlsError "Unable to read the certificate"), s)
    | (some x509, s) =>
        let (out, s) := useCertificate fails x509 text s
        (out, OpenSSLPointer.destroy (some x509) s)

/-! ## Who has the references -/

namespace OpenSSL

/-- How many references the context has to a certificate. -/
def held (s : OpenSSL) (x509 : X509) : ℤ := s.certificate.toList.count x509 + s.chain.count x509

/-- The certificates of a context have the references that the context holds, and those of its
chain one each. -/
structure Owned (s : OpenSSL) : Prop where
  owed : s.certificates.Owed s.held
  once : ∀ x509 ∈ s.chain, s.certificates.count x509 = 1

variable {fails} {s : OpenSSL}

/-- A certificate is read. -/
def parsed (s : OpenSSL) : OpenSSL :=
  { s with
    certificates := s.certificates.make.2
    unread := s.unread - 1
    calls := s.calls + 1 }

/-- A certificate is stored in the chain. -/
def stored (s : OpenSSL) (x509 : X509) : OpenSSL :=
  { s with chain := s.chain ++ [x509], calls := s.calls + 1 }

/-- A certificate replaces the one of the context. -/
def used (s : OpenSSL) (x509 : X509) : OpenSSL :=
  { s with
    certificates := (s.certificates.retain x509).releaseAll s.certificate.toList
    certificate := some x509
    calls := s.calls + 1 }

/-- The chain is cleared. -/
def cleared (s : OpenSSL) : OpenSSL :=
  { s with
    certificates := s.certificates.releaseAll s.chain
    chain := []
    calls := s.calls + 1 }

/-- What reading a certificate can do. -/
theorem pemReadBioX509_cases (fails : ℕ → Bool) (s : OpenSSL) :
    ((fails s.calls = true ∨ s.unread = 0) ∧
      pemReadBioX509 fails s = (none, { s with calls := s.calls + 1 })) ∨
    ((fails s.calls = false ∧ 0 < s.unread) ∧
      pemReadBioX509 fails s = (some s.certificates.made, s.parsed)) := by
  by_cases none : fails s.calls = true ∨ s.unread = 0
  · exact Or.inl ⟨none, by simp [pemReadBioX509, call, none]⟩
  · refine Or.inr ⟨?_, by simp [pemReadBioX509, call, none, parsed]; rfl⟩
    rw [not_or, Bool.not_eq_true] at none
    exact ⟨none.1, Nat.pos_of_ne_zero none.2⟩

theorem held_stored (s : OpenSSL) (x509 x : X509) :
    (s.stored x509).held x = s.held x + [x509].count x := by
  simp [held, stored, List.count_append, add_assoc]

/-! Iterations of the loop. -/

theorem addChainCerts_none (fails : ℕ → Bool) (fuel : ℕ) (s : OpenSSL) :
    addChainCerts fails fuel none s = (.ok (), s) := by cases fuel <;> rfl

theorem addChainCerts_of_fails {fuel : ℕ} {x509Ca : X509} (failed : fails s.calls = true) :
    addChainCerts fails (fuel + 1) (some x509Ca) s
      = (.error (exception .tlsError "Unable to load the certificate"),
        x509Free x509Ca { s with calls := s.calls + 1 }) := by
  simp [addChainCerts, sslCtxAdd0ChainCert, call, failed, OpenSSLPointer.destroy]

/-- The certificate is stored in the chain without a reference of its own, the next one is read,
and the pointer gives up the reference to the one that was stored. -/
theorem addChainCerts_of_success {fuel : ℕ} {x509Ca : X509} (success : fails s.calls = false) :
    addChainCerts fails (fuel + 1) (some x509Ca) s
      = addChainCerts fails fuel (pemReadBioX509 fails (s.stored x509Ca)).1
        (x509Free x509Ca (pemReadBioX509 fails (s.stored x509Ca)).2) := by
  simp [addChainCerts, sslCtxAdd0ChainCert, call, success, OpenSSLPointer.reset,
    OpenSSLPointer.destroy, stored]

/-- The loop ends by itself: with fuel for the certificates that are left, more changes nothing. -/
theorem addChainCerts_succ (fails : ℕ → Bool) {fuel : ℕ} {x509Ca : OpenSSLPointer}
    (enough : s.unread < fuel) :
    addChainCerts fails (fuel + 1) x509Ca s = addChainCerts fails fuel x509Ca s := by
  induction fuel generalizing s x509Ca with
  | zero => exact absurd enough (Nat.not_lt_zero _)
  | succ fuel ih =>
      cases x509Ca with
      | none => rfl
      | some x509Ca =>
          cases failed : fails s.calls with
          | true => rw [addChainCerts_of_fails failed, addChainCerts_of_fails failed]
          | false =>
              rw [addChainCerts_of_success failed, addChainCerts_of_success failed]
              rcases pemReadBioX509_cases fails (s.stored x509Ca) with
                ⟨-, read⟩ | ⟨⟨-, more⟩, read⟩
              · rw [read, addChainCerts_none, addChainCerts_none]
              · rw [read]
                have more : 0 < s.unread := more
                exact ih (show s.unread - 1 < fuel by omega)

/-- A reference that an owner is short of, counted among the certificates that were stored. -/
theorem owed_of_short {r : References} {holders owners : ℕ → ℤ} {x509 : X509} {added : List X509}
    (owed : r.Owed fun x => holders x + (owners x - [x509].count x) - added.count x) :
    r.Owed fun x => holders x + owners x - (x509 :: added).count x := by
  refine owed.congr fun x => ?_
  have cut : (x509 :: added).count x = [x509].count x + added.count x :=
    @List.count_append _ _ x [x509] added
  rw [cut]
  push_cast
  ring

/-- **The loop.**  It stores certificates `added` in the chain, and each of them is short of the
reference that the chain should have.  `owners` are the other references. -/
theorem addChainCerts_spec (fails : ℕ → Bool) (fuel : ℕ) {x509Ca : OpenSSLPointer}
    (owners : ℕ → ℤ)
    (enough : s.unread < fuel)
    (owed : s.certificates.Owed fun x => s.held x + owners x + x509Ca.toList.count x)
    (there : ∀ x ∈ x509Ca, x < s.certificates.made) :
    ∃ added : List X509,
      (addChainCerts fails fuel x509Ca s).2.chain = s.chain ++ added ∧
      (addChainCerts fails fuel x509Ca s).2.certificate = s.certificate ∧
      s.certificates.made ≤ (addChainCerts fails fuel x509Ca s).2.certificates.made ∧
      (added = [] ↔ x509Ca = none ∨ fails s.calls = true) ∧
      (addChainCerts fails fuel x509Ca s).2.certificates.Owed fun x =>
        (addChainCerts fails fuel x509Ca s).2.held x + owners x - added.count x := by
  -- by induction on the fuel; the references that are short are taken from `owners`
  induction fuel generalizing s x509Ca owners with
  | zero => exact absurd enough (Nat.not_lt_zero _)
  | succ fuel ih =>
      cases x509Ca with
      | none =>
          refine ⟨[], (List.append_nil _).symm, rfl, le_rfl, by simp, ?_⟩
          exact owed.congr fun x => by simp [addChainCerts]
      | some x509Ca =>
          have known := there x509Ca rfl
          cases failed : fails s.calls with
          | true =>
              rw [addChainCerts_of_fails failed]
              refine ⟨[], (List.append_nil _).symm, rfl, le_rfl, by simp, ?_⟩
              refine (owed.release known).congr fun x => ?_
              simp [held, x509Free]
          | false =>
              have kept : (s.stored x509Ca).certificates.Owed fun x =>
                  (s.stored x509Ca).held x + (owners x - [x509Ca].count x) + [x509Ca].count x :=
                owed.congr fun x => by
                  rw [held_stored, Option.toList_some]
                  ring
              rw [addChainCerts_of_success failed]
              rcases pemReadBioX509_cases fails (s.stored x509Ca) with
                ⟨-, read⟩ | ⟨⟨-, more⟩, read⟩
              · rw [read, addChainCerts_none]
                refine ⟨[x509Ca], rfl, rfl, le_rfl, by simp, ?_⟩
                refine (kept.release known).congr fun x => ?_
                simp only [held, x509Free]
                ring
              · rw [read]
                have read' : s.unread - 1 < fuel := by
                  have more : 0 < s.unread := more
                  omega
                have made := kept.make.release (x := x509Ca) (Nat.lt_succ_of_lt known)
                obtain ⟨added, chain, certificate, older, -, rest⟩ :=
                  @ih (x509Free x509Ca (s.stored x509Ca).parsed) (some s.certificates.made)
                    (fun x => owners x - [x509Ca].count x) read'
                    (made.congr fun x => by
                      simp only [held, x509Free, parsed, stored, Option.toList_some]
                      ring)
                    (fun x hx => by
                      obtain rfl := Option.some.inj hx
                      exact Nat.lt_succ_self _)
                refine ⟨x509Ca :: added, ?_, certificate, Nat.le_of_succ_le older, by simp, ?_⟩
                · exact chain.trans (List.append_cons _ _ _).symm
                · exact owed_of_short rest

/-- What is held is held by the context or in its chain. -/
theorem lt_made_of_held {owners : ℕ → ℤ} {x509 : X509} (owed : s.certificates.Owed owners)
    (held : owners x509 ≠ 0) : x509 < s.certificates.made := by
  by_contra beyond
  exact held (owed.fresh x509 (Nat.not_lt.mp beyond))

/-- `SSL_CTX_use_certificate`, when it succeeds: the context holds the certificate it was given
in place of the one it had. -/
theorem sslCtxUseCertificate_owed {owners : ℕ → ℤ} {x509 : X509}
    (owed : s.certificates.Owed fun x => s.held x + owners x)
    (nonneg : ∀ x, 0 ≤ owners x) (known : x509 < s.certificates.made)
    (success : fails s.calls = false) :
    sslCtxUseCertificate fails x509 s = (true, s.used x509) ∧
    (s.used x509).certificates.Owed fun x => (s.used x509).held x + owners x := by
  refine ⟨by simp [sslCtxUseCertificate, call, success, used], ?_⟩
  refine ((owed.retain known).releaseAll fun x hx => ?_).congr fun x => ?_
  · refine lt_made_of_held owed (ne_of_gt ?_)
    have counted := List.count_pos_iff.mpr hx
    have others := nonneg x
    simp only [held]
    omega
  · simp only [held, used, Option.toList_some]
    ring

/-- `SSL_CTX_clear_chain_certs`, when it succeeds. -/
theorem sslCtxClearChainCerts_owed {owners : ℕ → ℤ}
    (owed : s.certificates.Owed fun x => s.held x + owners x)
    (nonneg : ∀ x, 0 ≤ owners x) (success : fails s.calls = false) :
    sslCtxClearChainCerts fails s = (true, s.cleared) ∧
    s.cleared.certificates.Owed fun x => s.cleared.held x + owners x := by
  refine ⟨by simp [sslCtxClearChainCerts, call, success, cleared], ?_⟩
  refine (owed.releaseAll fun x hx => ?_).congr fun x => ?_
  · refine lt_made_of_held owed (ne_of_gt ?_)
    have counted := List.count_pos_iff.mpr hx
    have others := nonneg x
    simp only [held]
    omega
  · simp only [held, cleared, List.count_nil]
    push_cast
    ring

/-- The condition under which no certificate is stored in the chain: the text has none for it,
or one of the calls up to the first `SSL_CTX_add0_chain_cert` fails. -/
def StoresNone (fails : ℕ → Bool) (text : ℕ) : Prop := text < 2 ∨ ∃ n < 6, fails n = true

/-- A call that succeeds is none of those that fail. -/
theorem exists_fails_succ {c k : ℕ} (success : fails c = false) :
    (∃ n < k + 1, fails (c + n) = true) ↔ ∃ n < k, fails (c + 1 + n) = true := by
  constructor
  · rintro ⟨n, lt, failed⟩
    cases n with
    | zero => exact absurd (success.symm.trans failed) (by decide)
    | succ n => exact ⟨n, by omega, Nat.add_right_comm c 1 n ▸ failed⟩
  · rintro ⟨n, lt, failed⟩
    exact ⟨n + 1, by omega, (Nat.add_right_comm c n 1 ▸ failed : _)⟩

/-- What a part of the function has done to the certificates: it has stored `added` in the chain,
each of which is short of the reference that the chain should have.  `owners` are the references
outside the context. -/
structure Adds (s s' : OpenSSL) (owners : ℕ → ℤ) (added : List X509) : Prop where
  grown : s.certificates.made ≤ s'.certificates.made
  owed : s'.certificates.Owed fun x => s'.held x + owners x - added.count x
  once : added = [] → ∀ x ∈ s'.chain, s'.held x = 1

/-- A part that did not get to the certificates. -/
theorem Adds.nothing {owners : ℕ → ℤ} {unread calls : ℕ}
    (owed : s.certificates.Owed fun x => s.held x + owners x)
    (once : ∀ x ∈ s.chain, s.held x = 1) :
    Adds s { s with unread := unread, calls := calls } owners [] where
  grown := le_rfl
  owed := owed.congr fun x => by simp [held]
  once := fun _ => once

/-- The part of the function behind `SSL_CTX_use_certificate`. -/
theorem chainCertificates_spec (fails : ℕ → Bool) (text : ℕ) (owners : ℕ → ℤ)
    (owed : s.certificates.Owed fun x => s.held x + owners x) (nonneg : ∀ x, 0 ≤ owners x)
    (once : ∀ x ∈ s.chain, s.held x = 1) (rest : s.unread + 1 = text) :
    ∃ added : List X509,
      (added = [] ↔ s.unread = 0 ∨ ∃ n < 3, fails (s.calls + n) = true) ∧
      Adds s (chainCertificates fails text s).2 owners added := by
  cases first : fails s.calls with
  | true =>
      have stop : (chainCertificates fails text s).2 = { s with calls := s.calls + 1 } := by
        simp [chainCertificates, sslCtxClearChainCerts, call, first]
      rw [stop]
      exact ⟨[], iff_of_true rfl (Or.inr ⟨0, by decide, first⟩), .nothing owed once⟩
  | false =>
      obtain ⟨clear, owed⟩ := sslCtxClearChainCerts_owed owed nonneg first
      have older : s.certificates.made ≤ s.cleared.certificates.made := by simp [cleared]
      have next : chainCertificates fails text s = addChainCerts fails text
          (pemReadBioX509 fails s.cleared).1 (pemReadBioX509 fails s.cleared).2 := by
        rw [chainCertificates, clear]
        rfl
      rw [next]
      rcases pemReadBioX509_cases fails s.cleared with ⟨absent, read⟩ | ⟨⟨present, more⟩, read⟩
      · rw [read, addChainCerts_none]
        refine ⟨[], iff_of_true rfl ?_, older,
          owed.congr fun x => by simp [held], by simp [cleared]⟩
        rcases absent with failed | none
        · exact Or.inr ⟨1, by decide, failed⟩
        · exact Or.inl none
      · rw [read]
        obtain ⟨added, chain, certificate, grown, none, owed⟩ := addChainCerts_spec fails text
          owners (s := s.cleared.parsed)
          (show s.unread - 1 < text by omega)
          (owed.make.congr fun x => by simp [held, parsed])
          (fun x (hx : x ∈ some s.cleared.certificates.made) => by
            obtain rfl := Option.some.inj hx
            exact Nat.lt_succ_self _)
        refine ⟨added, ?_, (older.trans (Nat.le_succ _)).trans grown, owed, ?_⟩
        · -- two calls did not fail, the third is the first that stores
          have present : fails (s.calls + 1) = false := present
          rw [none, exists_fails_succ first, exists_fails_succ present]
          constructor
          · rintro (absent | failed)
            · cases absent
            · exact Or.inr ⟨0, Nat.one_pos, failed⟩
          · rintro (nothing | ⟨n, lt, failed⟩)
            · exact absurd nothing (Nat.ne_of_gt more)
            · obtain rfl := Nat.lt_one_iff.mp lt
              exact Or.inr failed
        · rintro rfl x hx
          rw [chain] at hx
          cases hx

/-- The part of the function behind the reading of the certificate, which has one reference more
than the context holds. -/
theorem useCertificate_spec (fails : ℕ → Bool) (x509 : X509) (text : ℕ)
    (owed : s.certificates.Owed fun x => s.held x + [x509].count x)
    (known : x509 < s.certificates.made) (unheld : s.held x509 = 0)
    (once : ∀ x ∈ s.chain, s.held x = 1) (rest : s.unread + 1 = text) :
    ∃ added : List X509,
      (added = [] ↔ s.unread = 0 ∨ ∃ n < 4, fails (s.calls + n) = true) ∧
      Adds s (useCertificate fails x509 text s).2 (fun x => [x509].count x) added := by
  have nonneg : ∀ x, (0 : ℤ) ≤ ([x509] : List X509).count x := fun x => Int.natCast_nonneg _
  cases first : fails s.calls with
  | true =>
      have stop : (useCertificate fails x509 text s).2 = { s with calls := s.calls + 1 } := by
        simp [useCertificate, sslCtxUseCertificate, call, first]
      rw [stop]
      exact ⟨[], iff_of_true rfl (Or.inr ⟨0, by decide, first⟩), .nothing owed once⟩
  | false =>
      obtain ⟨use, owed⟩ := sslCtxUseCertificate_owed owed nonneg known first
      have next :
          useCertificate fails x509 text s = chainCertificates fails text (s.used x509) := by
        rw [useCertificate, use]
        rfl
      have older : s.certificates.made ≤ (s.used x509).certificates.made := by simp [used]
      have kept : ∀ x ∈ s.chain, (([x509] : List X509).count x : ℤ) + s.chain.count x = 1 := by
        intro x hx
        have counted := List.count_pos_iff.mpr hx
        have alone := once x hx
        simp only [held] at alone unheld
        have other : x509 ≠ x := by
          rintro rfl
          omega
        rw [List.count_singleton, beq_eq_false_iff_ne.mpr other]
        simp
        omega
      rw [next]
      obtain ⟨added, none, adds⟩ := chainCertificates_spec fails text
        (fun x => [x509].count x) owed nonneg kept rest
      refine ⟨added, ?_, older.trans adds.grown, adds.owed, adds.once⟩
      rw [none, exists_fails_succ first]
      rfl

/-- **What `set_tls_certificate` leaves behind**: the references that the context holds, less one
for each certificate it has stored in the chain. -/
theorem setTlsCertificate_spec (fails : ℕ → Bool) (text : ℕ) (owned : s.Owned) :
    ∃ added : List X509,
      (added = [] ↔ StoresNone fails text) ∧
      Adds s (setTlsCertificate fails text s).2 (fun _ => 0) added := by
  have once : ∀ x ∈ s.chain, s.held x = 1 := fun x hx =>
    (owned.owed.counts x).symm.trans (owned.once x hx)
  have alone : s.certificates.Owed fun x => s.held x + 0 :=
    owned.owed.congr fun x => (add_zero _).symm
  cases bio : fails 0 with
  | true =>
      have stop : (setTlsCertificate fails text s).2 = { s with calls := 1 } := by
        simp [setTlsCertificate, bioNewMemBuf, call, bio]
      rw [stop]
      exact ⟨[], iff_of_true rfl (Or.inr ⟨0, by decide, bio⟩), .nothing alone once⟩
  | false =>
      rcases pemReadBioX509_cases fails { s with unread := text, calls := 1 } with
        ⟨absent, read⟩ | ⟨⟨present, more⟩, read⟩
      · have stop : (setTlsCertificate fails text s).2
            = { s with unread := text, calls := 2 } := by
          simp [setTlsCertificate, bioNewMemBuf, call, bio, read]
        rw [stop]
        refine ⟨[], iff_of_true rfl ?_, .nothing alone once⟩
        rcases absent with failed | none
        · exact Or.inr ⟨1, by decide, failed⟩
        · have none : text = 0 := none
          exact Or.inl (by omega)
      · have used : (setTlsCertificate fails text s).2
            = x509Free s.certificates.made (useCertificate fails s.certificates.made text { s with
              certificates := s.certificates.make.2
              unread := text - 1
              calls := 2 }).2 := by
          simp only [setTlsCertificate, bioNewMemBuf, call, bio, Bool.false_eq_true, if_false,
            Bool.not_true, read]
          rfl
        rw [used]
        have unheld : s.held s.certificates.made = 0 := owned.owed.fresh _ le_rfl
        have more : 0 < text := more
        obtain ⟨added, none, adds⟩ := useCertificate_spec fails
          s.certificates.made text (s := { s with
            certificates := s.certificates.make.2
            unread := text - 1
            calls := 2 })
          owned.owed.make (Nat.lt_succ_self _) unheld once (by show text - 1 + 1 = text; omega)
        have known : s.certificates.made < _ := Nat.lt_of_succ_le adds.grown
        refine ⟨added, ?_, known.le, (adds.owed.release known).congr fun x => ?_, adds.once⟩
        · have later : (∃ n < 6, fails n = true) ↔ ∃ n < 4, fails (2 + n) = true := by
            rw [← exists_fails_succ present, ← exists_fails_succ bio]
            simp only [Nat.zero_add]
          rw [none, StoresNone, later]
          refine or_congr_left ?_
          show text - 1 = 0 ↔ text < 2
          omega
        · simp only [held, x509Free]
          ring

/-- **Ownership of the certificates.**  The references are those that the context holds, and the
certificates of the chain have one each, if and only if none was stored in the chain. -/
theorem setTlsCertificate_owned_iff (fails : ℕ → Bool) (text : ℕ) (s : OpenSSL) (owned : s.Owned) :
    (setTlsCertificate fails text s).2.Owned ↔ StoresNone fails text := by
  obtain ⟨added, none, adds⟩ := setTlsCertificate_spec fails text owned
  rw [← none]
  constructor
  · intro owned'
    -- a certificate that was stored is short of a reference
    refine List.eq_nil_iff_forall_not_mem.mpr fun x stored => ?_
    have counted := List.count_pos_iff.mpr stored
    have short := (adds.owed.counts x).symm.trans (owned'.owed.counts x)
    omega
  · rintro rfl
    have exact : (setTlsCertificate fails text s).2.certificates.Owed
      (setTlsCertificate fails text s).2.held := adds.owed.congr fun x => by simp
    exact ⟨exact, fun x hx => (exact.counts x).trans (adds.once rfl x hx)⟩

namespace Sample

/-- A context with a certificate and with two others in its chain. -/
def context : OpenSSL :=
  { certificates := { count := fun x509 => if x509 < 3 then 1 else 0, made := 3 }
    certificate := some 0
    chain := [1, 2] }

theorem context_owned : context.Owned where
  owed :=
    { counts := fun x509 => by
        match x509 with
        | 0 | 1 | 2 => rfl
        | x509 + 3 => simp [context, held]
      fresh := fun x509 beyond => by
        have beyond : 3 ≤ x509 := beyond
        simp [context, held, List.count_eq_zero_of_not_mem, show 0 ≠ x509 by omega,
          show ¬ (x509 = 1 ∨ x509 = 2) by omega] }
  once := by decide

end Sample

/-- A text with a chain of two, for a context that has certificates: if the first of the chain
cannot be added the context is handled correctly, and otherwise it is not. -/
theorem setTlsCertificate_owned_iff_of_context :
    (setTlsCertificate (fun n => n = 5) 3 Sample.context).2.Owned ∧
      ¬ (setTlsCertificate (fun _ => false) 3 Sample.context).2.Owned := by
  constructor
  · refine (setTlsCertificate_owned_iff _ 3 Sample.context Sample.context_owned).mpr ?_
    exact Or.inr ⟨5, by decide, by decide⟩
  · rw [setTlsCertificate_owned_iff _ 3 Sample.context Sample.context_owned]
    rintro (short | ⟨n, -, failed⟩)
    · exact absurd short (by decide)
    · cases failed

/-- A text with one certificate for the chain: the context has it in its chain and it has been
released. -/
theorem not_setTlsCertificate_owned :
    (setTlsCertificate (fun _ => false) 2 {}).2.chain = [1] ∧
      (setTlsCertificate (fun _ => false) 2 {}).2.certificates.count 1 = 0 ∧
      ¬ (setTlsCertificate (fun _ => false) 2 {}).2.Owned := by
  have released : (setTlsCertificate (fun _ => false) 2 {}).2.certificates.count 1 = 0 := by decide
  refine ⟨by decide, released, fun owned => ?_⟩
  have one := owned.once 1 (by decide)
  rw [released] at one
  exact absurd one (by decide)

end OpenSSL

end Comm
