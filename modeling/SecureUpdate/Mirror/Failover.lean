import SecureUpdate.Error
import SecureUpdate.Mirror.Basic

/-!
Retrieval with failover. The mirrors that may serve a resource are asked in order, and the first
body that passes verification is the answer. What a mirror does never relaxes the check of the next
one's body. When every mirror fails, one failure stands for itself and several are reported
together.
-/

namespace SecureUpdate

/-- What comes of asking for an address. -/
inductive Reply where
  | body (bs : Bytes)
  | failure (e : FetchError)
  /-- No answer before the time is up. -/
  | stalled
deriving DecidableEq

/-- Moves bytes: asked for an address and a greatest length, it acts on a state `ν` of its own. -/
abbrev Fetcher (ν : Type) := String → UInt64 → ν → Reply × ν

/-- Checks a body, acting on a state `σ` of its own. -/
abbrev Verifier (σ : Type) := Bytes → σ → Except TrustError Unit × σ

/-- The verifier that moves trust forward where `accept` does, and leaves it alone elsewhere. -/
def Verifier.ofAcceptance {τ : Type} (accept : Bytes → τ → Except TrustError τ) : Verifier τ :=
  fun bs t => match accept bs t with
    | .ok t' => (.ok (), t')
    | .error e => (.error e, t)

/-- The verifier without a state. -/
def Verifier.ofCheck {σ : Type} (check : Bytes → Except TrustError Unit) : Verifier σ :=
  fun bs s => (check bs, s)

/-- The mirrors of a repository in order, with the time in nanoseconds that each request may take.
-/
structure MirrorList where
  mirrors : List Mirror
  timeout : Nat
deriving DecidableEq

namespace MirrorList

variable {ν σ : Type}

/-- Asks for one address. -/
def fetchOne (timeout : Nat) (fetcher : Fetcher ν) (url : String) (maxLength : UInt64) (net : ν) :
    Except TrustError Bytes × ν :=
  match fetcher url maxLength net with
  | (.body bs, net) => (.ok bs, net)
  | (.failure e, net) => (.error (.fetch url e), net)
  | (.stalled, net) => (.error (.fetch url (.timeout timeout)), net)

/-- Asks one mirror and checks its body. -/
def tryMirror (timeout : Nat) (fetcher : Fetcher ν) (verify : Verifier σ) (resource : Resource)
    (maxLength : UInt64) (m : Mirror) (net : ν) (s : σ) : Except TrustError Bytes × ν × σ :=
  match fetchOne timeout fetcher (resource.urlAt m) maxLength net with
  | (.error e, net) => (.error e, net, s)
  | (.ok bs, net) =>
    match verify bs s with
    | (.ok (), s) => (.ok bs, net, s)
    | (.error e, s) => (.error e, net, s)

/-- Asks mirrors in turn until one gives a body that passes; otherwise gives each one's failure
after its address. -/
def tryEach (timeout : Nat) (fetcher : Fetcher ν) (verify : Verifier σ) (resource : Resource)
    (maxLength : UInt64) : List Mirror → ν → σ → Except (List (String × TrustError)) Bytes × ν × σ
  | [], net, s => (.error [], net, s)
  | m :: ms, net, s =>
    match tryMirror timeout fetcher verify resource maxLength m net s with
    | (.ok bs, net, s) => (.ok bs, net, s)
    | (.error e, net, s) =>
      match tryEach timeout fetcher verify resource maxLength ms net s with
      | (.ok bs, net, s) => (.ok bs, net, s)
      | (.error es, net, s) => (.error ((m.baseUrl, e) :: es), net, s)

/-- The error that stands for the failures of all mirrors. -/
def failure (resource : Resource) : List (String × TrustError) → TrustError
  | [(_, e)] => e
  | errors => .noWorkingMirror resource.name errors

/-- The first body, in the order of the mirrors that may serve the resource, that passes. -/
def fetchVerified (list : MirrorList) (fetcher : Fetcher ν) (verify : Verifier σ)
    (resource : Resource) (maxLength : UInt64) (net : ν) (s : σ) :
    Except TrustError Bytes × ν × σ :=
  let eligible := list.mirrors.filter fun m => resource.servedBy m
  match tryEach list.timeout fetcher verify resource maxLength eligible net s with
  | (.ok bs, net, s) => (.ok bs, net, s)
  | (.error errors, net, s) => (.error (failure resource errors), net, s)

end MirrorList

end SecureUpdate
