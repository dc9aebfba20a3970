import Mathlib.Data.List.AList
import Mathlib.Logic.Function.Basic
import MigrateImageRepository.Dialogue

/-! What `create-external-cluster-resources.py` asks of the Ceph cluster.
The cluster is any party that answers these questions; its users are a function of its
state. The laws say what the `auth` commands may do to the users. They allow every
command to fail, and an `auth caps` that reports a failure to have been carried out. -/

namespace MigrateImageRepository.ExternalCluster.Cluster
open Dialogue Dialogue.Prog

abbrev Dict := AList (fun _ : String => String)

structure AuthEntry where
  key : String
  caps : Dict

structure MonReply (α : Type) where
  ret : ℤ
  out : α
  err : String

structure Filesystem where
  name : String
  metadataPool : String
  dataPools : List String

structure Addr where
  type : String
  addr : String

structure Mon where
  name : String
  addrvec : List Addr
  publicAddr : String

structure Quorum where
  leaderName : String
  mons : List Mon

structure Pool where
  poolName : String
  erasureCodeProfile : String

structure RgwKeys where
  accessKey : String
  secretKey : String

structure ProcessFailure where
  returncode : ℤ
  stderr : String

inductive Op where
  | print (msg : String)
  | authGet (entity : String)
  | authGetOrCreate (entity : String) (caps : List String)
  | authCaps (entity : String) (caps : List String)
  | fsid
  | fsLs
  | quorumStatus
  | mgrServices
  | osdDump
  | poolExists (pool : String)
  | poolInit (pool : String)
  | namespaceExists (pool radosNamespace : String)
  | checkOutput (cmd : List String)
  | readFile (path : String)
  | writeFile (path text : String)
  | activeAndStandbyMgrs
  | validateRgwEndpoint (infoCapSupported : Bool)

/-- The last two questions stand for whole functions that probe the network. -/
@[reducible] def Reply : Op → Type
  | .print _ => Unit
  | .authGet _ => MonReply (List AuthEntry)
  | .authGetOrCreate _ _ => MonReply (List AuthEntry)
  | .authCaps _ _ => MonReply Unit
  | .fsid => String
  | .fsLs => MonReply (List Filesystem)
  | .quorumStatus => MonReply (Option Quorum)
  | .mgrServices => MonReply (Option String)
  | .osdDump => MonReply (Option (List Pool))
  | .poolExists _ => Bool
  | .poolInit _ => Except String Unit
  | .namespaceExists _ _ => Except String Bool
  | .checkOutput _ => Except ProcessFailure (Option RgwKeys)
  | .readFile _ => Except String String
  | .writeFile _ _ => Except String Unit
  | .activeAndStandbyMgrs => Except String (String × String)
  | .validateRgwEndpoint _ => Except String String

inductive Stop where
  | executionFailure (msg : String)
  | keyError (key : String)
  | other (msg : String)
deriving DecidableEq

abbrev Exporter (α : Type) := Prog Op Reply Stop α

abbrev print (msg : String) : Exporter Unit := ask (Op.print msg)

abbrev authGet (entity : String) : Exporter (MonReply (List AuthEntry)) :=
  ask (Op.authGet entity)

abbrev authCaps (entity : String) (caps : List String) : Exporter (MonReply Unit) :=
  ask (Op.authCaps entity caps)

abbrev authGetOrCreate (entity : String) (caps : List String) :
    Exporter (MonReply (List AuthEntry)) :=
  ask (Op.authGetOrCreate entity caps)

abbrev checkOutput (cmd : List String) : Exporter (Except ProcessFailure (Option RgwKeys)) :=
  ask (Op.checkOutput cmd)

/-- Errors of the libraries end the program with a traceback. -/
def orStop {α : Type} (result : Except String α) : Exporter α := ofExcept (result.mapError .other)

theorem mapError_eq_ok {ε ε' α : Type} {f : ε → ε'} {x : Except ε α} {a : α} :
    x.mapError f = .ok a ↔ x = .ok a := by
  cases x <;> simp [Except.mapError]

def MonReply.found {α : Type} (reply : MonReply (List α)) : Option α :=
  if reply.ret = 0 then reply.out.head? else none

/-- A user of the cluster. A service without a capability has none in the map. -/
@[ext] structure User where
  key : String
  caps : String → Option String

def AuthEntry.Describes (entry : AuthEntry) (user : User) : Prop :=
  entry.key = user.key ∧ ∀ service, entry.caps.lookup service = user.caps service

/-- The flat argument `[service, text, service, text, ...]` of an `auth` command. -/
def pairs : List String → List (String × String)
  | service :: text :: rest => (service, text) :: pairs rest
  | _ => []

/-- `[cap for cap_list in list(caps.items()) for cap in cap_list]` -/
def flatten (caps : List (String × String)) : List String :=
  caps.flatMap (fun cap => [cap.1, cap.2])

@[simp] theorem pairs_flatten (caps : List (String × String)) : pairs (flatten caps) = caps := by
  induction caps with
  | nil => rfl
  | cons cap caps ih =>
    rw [flatten, List.flatMap_cons, List.cons_append, List.cons_append, List.nil_append, pairs]
    exact congrArg (cap :: ·) ih

def capMap (caps : List String) (service : String) : Option String := (pairs caps).lookup service

def User.setCaps (user : User) (caps : List String) : User := { user with caps := capMap caps }

abbrev Users := String → Option User

def changesUsers : Op → Bool
  | .authGetOrCreate _ _ => true
  | .authCaps _ _ => true
  | _ => false

variable {σ : Type}

/-- A successful `auth caps` replaces all capabilities of an existing user. -/
def setCaps (users : Users) (entity : String) (caps : List String) : Users :=
  Function.update users entity ((users entity).map (·.setCaps caps))

structure AuthLaws (party : Party Op Reply σ) (users : σ → Users) : Prop where
  same_users : ∀ op s, changesUsers op = false → users (party op s).2 = users s
  get_found : ∀ e s entry, MonReply.found (party (.authGet e) s).1 = some entry →
    ∃ user, users s e = some user ∧ entry.Describes user
  caps_changed : ∀ e caps s, users (party (.authCaps e caps) s).2 = users s ∨
    users (party (.authCaps e caps) s).2 = setCaps (users s) e caps
  caps_done : ∀ e caps s, MonReply.ret (party (.authCaps e caps) s).1 = 0 →
    users (party (.authCaps e caps) s).2 = setCaps (users s) e caps
  create_changed : ∀ e caps s, users (party (.authGetOrCreate e caps) s).2 = users s ∨
    users s e = none ∧ ∃ key, users (party (.authGetOrCreate e caps) s).2 =
      Function.update (users s) e (some ⟨key, capMap caps⟩)
  create_found : ∀ e caps s entry,
    MonReply.found (party (.authGetOrCreate e caps) s).1 = some entry →
    ∃ user, users (party (.authGetOrCreate e caps) s).2 e = some user ∧ entry.Describes user

/-- A cluster whose `auth` commands work: existing users are found, and they are updated
whenever the cluster can read the new capabilities. -/
structure Reliable (party : Party Op Reply σ) (users : σ → Users) (reads : List String → Prop) :
    Prop extends AuthLaws party users where
  get_works : ∀ e s, (users s e).isSome → (MonReply.found (party (.authGet e) s).1).isSome
  caps_works : ∀ e caps s, (users s e).isSome → reads caps →
    MonReply.ret (party (.authCaps e caps) s).1 = 0

def toDict (caps : List String) : Dict :=
  ((pairs caps).map (fun pair => (⟨pair.1, pair.2⟩ : Sigma fun _ : String => String))).toAList

theorem lookup_toDict (caps : List String) (service : String) :
    (toDict caps).lookup service = capMap caps service := by
  rw [toDict, AList.lookup_to_alist, capMap]
  induction pairs caps with
  | nil => rfl
  | cons pair rest ih =>
    rw [List.map_cons, List.lookup_cons]
    by_cases hs : service = pair.1
    · rw [hs, beq_self_eq_true, List.dlookup_cons_eq]
    · rw [beq_false_of_ne hs, List.dlookup_cons_ne _ _ hs, ih]

/-- A cluster that keeps its users in a table and makes keys up from their names. -/
structure PlainCluster where
  auth : AList (fun _ : String => AuthEntry)

def AuthEntry.user (entry : AuthEntry) : User :=
  ⟨entry.key, fun service => entry.caps.lookup service⟩

def PlainCluster.users (s : PlainCluster) : Users := fun e => (s.auth.lookup e).map AuthEntry.user

def noEntity : String := "failed to find entity in keyring"

def plainParty : Party Op Reply PlainCluster
  | .print _, s => ((), s)
  | .authGet e, s =>
    match s.auth.lookup e with
    | some entry => (⟨0, [entry], ""⟩, s)
    | none => (⟨-2, [], noEntity⟩, s)
  | .authGetOrCreate e caps, s =>
    match s.auth.lookup e with
    | some entry =>
      if entry.caps.entries = (toDict caps).entries then (⟨0, [entry], ""⟩, s)
      else (⟨-22, [], "key for " ++ e ++ " exists but cap does not match"⟩, s)
    | none =>
      let entry : AuthEntry := ⟨"AQ" ++ e, toDict caps⟩
      (⟨0, [entry], ""⟩, ⟨s.auth.insert e entry⟩)
  | .authCaps e caps, s =>
    match s.auth.lookup e with
    | some entry => (⟨0, (), ""⟩, ⟨s.auth.insert e ⟨entry.key, toDict caps⟩⟩)
    | none => (⟨-2, (), noEntity⟩, s)
  | .fsid, s => ("af4e1673-0b72-402d-990a-22d2919d0f1c", s)
  | .fsLs, s => (⟨0, [⟨"myfs", "myfs-metadata", ["myfs-replicated"]⟩], ""⟩, s)
  | .quorumStatus, s =>
    (⟨0, some ⟨"a", [⟨"a", [⟨"v2", "10.110.205.174:3300"⟩, ⟨"v1", "10.110.205.174:6789"⟩],
      "10.110.205.174:6789/0"⟩]⟩, ""⟩, s)
  | .mgrServices, s => (⟨0, some "https://ceph-dashboard:8443/", ""⟩, s)
  | .osdDump, s => (⟨0, none, ""⟩, s)
  | .poolExists _, s => (true, s)
  | .poolInit _, s => (.ok (), s)
  | .namespaceExists _ _, s => (.ok true, s)
  | .checkOutput _, s => (.ok none, s)
  | .readFile _, s => (.error "No such file or directory", s)
  | .writeFile _ _, s => (.ok (), s)
  | .activeAndStandbyMgrs, s => (.ok ("10.110.205.174", "9283"), s)
  | .validateRgwEndpoint _, s => (.ok "", s)

theorem users_insert (auth : AList (fun _ : String => AuthEntry)) (e : String)
    (entry : AuthEntry) : PlainCluster.users ⟨auth.insert e entry⟩ =
      Function.update (PlainCluster.users ⟨auth⟩) e (some entry.user) := by
  funext e'
  rw [PlainCluster.users]
  by_cases he : e' = e
  · rw [he, AList.lookup_insert, Function.update_self, Option.map_some]
  · rw [AList.lookup_insert_ne he, Function.update_of_ne he, PlainCluster.users]

theorem user_toDict (key : String) (caps : List String) :
    AuthEntry.user ⟨key, toDict caps⟩ = ⟨key, capMap caps⟩ :=
  User.ext rfl (funext (lookup_toDict caps))

theorem plainParty_reliable : Reliable plainParty PlainCluster.users (fun _ => True) where
  same_users op s h := by
    cases op with
    | authGet e => simp only [plainParty]; split <;> rfl
    | authGetOrCreate e caps => cases h
    | authCaps e caps => cases h
    | _ => rfl
  get_found e s entry h := by
    cases hl : s.auth.lookup e with
    | none => simp [plainParty, hl, MonReply.found] at h
    | some entry' =>
      have hentry : entry' = entry := by simpa [plainParty, hl, MonReply.found] using h
      refine ⟨entry.user, ?_, rfl, fun _ => rfl⟩
      rw [PlainCluster.users, hl, hentry, Option.map_some]
  caps_changed e caps s := by
    cases hl : s.auth.lookup e with
    | none => simp [plainParty, hl]
    | some entry =>
      right
      simp only [plainParty, hl]
      rw [users_insert, user_toDict, setCaps, PlainCluster.users, hl]
      rfl
  caps_done e caps s h := by
    cases hl : s.auth.lookup e with
    | none => simp [plainParty, hl] at h
    | some entry =>
      simp only [plainParty, hl]
      rw [users_insert, user_toDict, setCaps, PlainCluster.users, hl]
      rfl
  create_changed e caps s := by
    cases hl : s.auth.lookup e with
    | none =>
      right
      simp only [plainParty, hl]
      refine ⟨by rw [PlainCluster.users, hl]; rfl, "AQ" ++ e, ?_⟩
      rw [users_insert, user_toDict]
    | some entry =>
      left
      simp only [plainParty, hl]
      split <;> rfl
  create_found e caps s entry h := by
    cases hl : s.auth.lookup e with
    | none =>
      have hentry : ⟨"AQ" ++ e, toDict caps⟩ = entry := by
        simpa [plainParty, hl, MonReply.found] using h
      refine ⟨entry.user, ?_, rfl, fun _ => rfl⟩
      simp only [plainParty, hl]
      rw [users_insert, Function.update_self, hentry]
    | some entry' =>
      simp only [plainParty, hl] at h ⊢
      split at h
      · have hentry : entry' = entry := by simpa [MonReply.found] using h
        rename_i heq
        refine ⟨entry.user, ?_, rfl, fun _ => rfl⟩
        rw [if_pos heq, PlainCluster.users, hl, hentry, Option.map_some]
      · simp [MonReply.found] at h
  get_works e s h := by
    cases hl : s.auth.lookup e with
    | none => simp [PlainCluster.users, hl] at h
    | some entry => simp [plainParty, hl, MonReply.found]
  caps_works e caps s h _ := by
    cases hl : s.auth.lookup e with
    | none => simp [PlainCluster.users, hl] at h
    | some entry => simp [plainParty, hl]

/-- A cluster with a user from before the permission to blocklist clients was needed. -/
def olderCluster : PlainCluster :=
  ⟨AList.singleton "client.csi-rbd-node"
    ⟨"AQBOgrNeHbK1AxAAubYBeV8S1U", toDict ["mon", "profile rbd", "osd", "profile rbd"]⟩⟩

end MigrateImageRepository.ExternalCluster.Cluster
