import MigrateImageRepository.ExternalCluster.Handoff

/-! What happens after a hand-over.
The script for the Ceph cluster may run again, as an export or an upgrade, and Kubernetes
may import again, with any arguments and in any order, and each run may fail anywhere.
What was handed over stays as it is: no storage class changes, and every secret that one of
them names holds a key that the Ceph cluster accepts. -/

namespace MigrateImageRepository.ExternalCluster.Afterwards
open Dialogue Dialogue.Prog Cluster ClusterImport Export Handoff ImportEnds ImportRuns Manifests
open Runs Upgrade Users

inductive Event where
  | run (args : Args)
  | importWith (env : Env)

section Events

variable {σ τ : Type} (party : Party Op Reply σ) (kube : Party KubeOp KubeReply τ) (py : Python)

def afterEvent (st : σ × τ) : Event → σ × τ
  | .run args => (((script py args).run party st.1).2, st.2)
  | .importWith env => (st.1, ((importScript env).run kube st.2).2)

def afterEvents (events : List Event) (st : σ × τ) : σ × τ :=
  events.foldl (afterEvent party kube py) st

variable {party kube py} {users : σ → Users} {objects : τ → Objects}

theorem handedOver_afterEvent (laws : AuthLaws party users) (kubeLaws : KubeLaws kube objects)
    {env : Env} {checker : String} {st : σ × τ}
    (h : HandedOver env (users st.1) checker (objects st.2)) (event : Event) :
    HandedOver env (users (afterEvent party kube py st event).1) checker
      (objects (afterEvent party kube py st event).2) := by
  cases event with
  | run args =>
    refine h.mono (fun e user huser => ?_) (fun _ _ hobj => hobj)
    obtain ⟨user', huser', hkept⟩ := (preserved_of_run py laws args st.1).kept e user huser
    exact ⟨user', huser', hkept.key⟩
  | importWith env' =>
    exact h.mono (fun e user huser => ⟨user, huser, rfl⟩)
      (fun _ _ hobj => kept_of_run kubeLaws _ hobj)

end Events

section Plain

def driverVars : List (String × String) :=
  [("CSI_RBD_PROVISIONER_SECRET", "AQBNgrNe1geyKxAA8ekViRdE"),
    ("CSI_RBD_PROVISIONER_SECRET_NAME", "csi-rbd-provisioner")] ++ replicapoolVars

def handedCluster : PlainCluster :=
  ⟨((AList.singleton "client.healthchecker" ⟨"AQDkLIBd9vLGJxAAnXsIKPrwvUXAmY6D", ∅⟩).insert
    "client.csi-rbd-node" ⟨"AQBOgrNeHbK1AxAAubYBeV8S1U", ∅⟩).insert
    "client.csi-rbd-provisioner" ⟨"AQBNgrNe1geyKxAA8ekViRdE", ∅⟩⟩

theorem users_handedCluster (e : String) : handedCluster.users e =
    if e = "client.csi-rbd-provisioner" then some (AuthEntry.user ⟨"AQBNgrNe1geyKxAA8ekViRdE", ∅⟩)
    else if e = "client.csi-rbd-node" then some (AuthEntry.user ⟨"AQBOgrNeHbK1AxAAubYBeV8S1U", ∅⟩)
    else if e = "client.healthchecker" then
      some (AuthEntry.user ⟨"AQDkLIBd9vLGJxAAnXsIKPrwvUXAmY6D", ∅⟩)
    else none := by
  rw [handedCluster, ← AList.insert_empty, users_insert, users_insert, users_insert]
  simp only [Function.update_apply, PlainCluster.users, AList.lookup_empty, Option.map_none]

theorem handsOut_driverVars : HandsOut (envOf driverVars) handedCluster.users
    "client.healthchecker" where
  complete := ⟨by decide +kernel, by decide, by decide, fun _ => by decide,
    fun h => absurd h (by decide)⟩
  rados := by decide
  group := by decide
  username := by decide
  opens := ⟨_, by rw [users_handedCluster]; rfl, by decide⟩
  rbdNode := ⟨by decide, by decide +kernel,
    ⟨_, by rw [users_handedCluster]; rfl, by decide⟩, by decide, by decide⟩
  rbdProvisioner := ⟨by decide, by decide +kernel,
    ⟨_, by rw [users_handedCluster]; rfl, by decide⟩, by decide, by decide⟩
  cephfs := Or.inr (by decide)

theorem importable_driverVars : Importable (envOf driverVars) := by decide +kernel

def importedKube : List Object := ((importScript (envOf driverVars)).run plainKube []).2

end Plain

end MigrateImageRepository.ExternalCluster.Afterwards
