import MigrateImageRepository.ExternalCluster.Requests

/-! The users that an export creates.
Whatever the cluster answers and wherever the run stops, an export creates only users it
was asked for, with the capabilities of their kind, and never touches a user that exists.
A run that ends hands out the keys of the users that the cluster has then. -/

namespace MigrateImageRepository.ExternalCluster.Created
open Dialogue Dialogue.Prog Cluster Export Repeated Requests Upgrade Users

/-- A user that an export with these arguments may create. -/
def Requested (args : Args) (entity : String) (caps : List String) : Prop :=
  ∃ user ∈ baseUsers, ∃ newCap, getCapsAndEntity args user = .ok (args, newCap, entity) ∧
    caps = flatten newCap

def Grown (args : Args) (users users' : Users) : Prop :=
  ∀ e, users' e = users e ∨ users e = none ∧ ∃ key caps, Requested args e caps ∧
    users' e = some ⟨key, capMap caps⟩

theorem Grown.refl (args : Args) (users : Users) : Grown args users users :=
  fun _ => Or.inl rfl

theorem Grown.trans {args : Args} {users users' users'' : Users} (h : Grown args users users')
    (h' : Grown args users' users'') : Grown args users users'' := by
  intro e
  rcases h' e with hsame | ⟨hnone, hnew⟩
  · rw [hsame]
    exact h e
  · rcases h e with hsame' | ⟨-, key, caps, -, hcreated⟩
    · exact Or.inr ⟨hsame' ▸ hnone, hnew⟩
    · rw [hnone] at hcreated
      cases hcreated

theorem Grown.some {args : Args} {users users' : Users} (h : Grown args users users')
    {e : String} {user : User} (he : users e = some user) : users' e = some user := by
  rcases h e with hsame | ⟨hnone, -⟩
  · rw [hsame, he]
  · rw [hnone] at he
    cases he

def Opens (users : Users) (e : String) (key : Option String) : Prop :=
  ∃ user, users e = some user ∧ key = some user.key

theorem Opens.grown {args : Args} {users users' : Users} {e : String} {key : Option String}
    (h : Opens users e key) (hgrown : Grown args users users') : Opens users' e key := by
  obtain ⟨user, he, hkey⟩ := h
  exact ⟨user, hgrown.some he, hkey⟩

section Create

variable {σ : Type} {party : Party Op Reply σ} {users : σ → Users} {args : Args}

theorem AuthLaws.quiet (laws : AuthLaws party users) (op : Op) (hop : Quiet op) (s : σ) :
    users (party op s).2 = users s :=
  laws.same_users op s hop

theorem leads_authGet (laws : AuthLaws party users) (e : String) (us : Users)
    {E : Users → Prop} :
    Leads party users (authGet e) us (fun reply us' => us' = us ∧
      ∀ entry, reply.found = some entry → ∃ user, us e = some user ∧ entry.Describes user) E := by
  rintro s rfl
  rw [ends_ask]
  exact ⟨laws.same_users _ s rfl, laws.get_found e s⟩

theorem leads_authGetOrCreate (laws : AuthLaws party users) {e : String} {caps : List String}
    (hrequested : Requested args e caps) (us : Users) {E : Users → Prop} :
    Leads party users (authGetOrCreate e caps) us (fun reply us' => Grown args us us' ∧
      ∀ entry, reply.found = some entry → Opens us' e (some entry.key)) E := by
  rintro s rfl
  rw [ends_ask]
  refine ⟨?_, ?_⟩
  · rcases laws.create_changed e caps s with hsame | ⟨hnone, key, hcreated⟩
    · rw [hsame]
      exact Grown.refl args (users s)
    · rw [hcreated]
      intro e'
      by_cases he : e' = e
      · subst he
        exact Or.inr ⟨hnone, key, caps, hrequested, Function.update_self ..⟩
      · exact Or.inl (Function.update_of_ne he ..)
  · intro entry hfound
    obtain ⟨user, huser, hkey, -⟩ := laws.create_found e caps s entry hfound
    exact ⟨user, huser, by rw [hkey]⟩

theorem leads_checkUserExist (laws : AuthLaws party users) (e : String) (us : Users)
    {E : Users → Prop} :
    Leads party users (checkUserExist e) us
      (fun key us' => us' = us ∧ (key ≠ "" → Opens us e (some key))) E := by
  apply (leads_authGet laws e us).bind
  rintro reply us' ⟨rfl, hfound⟩
  cases hreply : reply.found with
  | none => exact leads_pure ⟨rfl, fun hne => absurd rfl hne⟩
  | some entry =>
    obtain ⟨user, huser, hkey, -⟩ := hfound entry hreply
    exact leads_pure ⟨rfl, fun _ => ⟨user, huser, by rw [hkey]⟩⟩

/-- One user of the export: its name is the one for the arguments, and its key opens it. -/
def Handed (args : Args) (user : String) (us : Users) (entity : String) (key : Option String) :
    Prop :=
  (∃ newCap, getCapsAndEntity args user = .ok (args, newCap, entity)) ∧ Opens us entity key

theorem Handed.grown {user entity : String} {us us' : Users} {key : Option String}
    (h : Handed args user us entity key) (hgrown : Grown args us us') :
    Handed args user us' entity key :=
  ⟨h.1, h.2.grown hgrown⟩

theorem leads_createKey (laws : AuthLaws party users) (hdry : args.dryRun = false) (user : String)
    (huser : user ∈ baseUsers) (failure : String) (us : Users) :
    Leads party users (createKey args user failure) us
      (fun result us' => result.1 = args ∧ Grown args us us' ∧
        Handed args user us' result.2.1 result.2.2)
      (Grown args us) := by
  rw [createKey]
  refine leads_ofExcept_bind ?_ (Grown.refl args us)
  rintro ⟨args', newCap, entity⟩ hresult
  replace hresult := mapError_eq_ok.mp hresult
  obtain rfl := getCapsAndEntity_base huser hresult
  simp only [hdry, Bool.false_eq_true, if_false]
  apply (leads_checkUserExist laws entity us).bind
  rintro userKey us ⟨rfl, hkey⟩
  split
  · rename_i hne
    exact leads_pure ⟨rfl, Grown.refl args' us, ⟨newCap, hresult⟩, hkey hne⟩
  · apply (leads_authGetOrCreate laws ⟨user, huser, newCap, hresult, rfl⟩ us).bind
    rintro reply us' ⟨hgrown, hfound⟩
    cases hreply : reply.found with
    | none => exact leads_fail hgrown
    | some entry => exact leads_pure ⟨rfl, hgrown, ⟨newCap, hresult⟩, hfound entry hreply⟩

theorem entity_checker {entity : String} {newCap : Caps}
    (h : getCapsAndEntity args "client.healthchecker" = .ok (args, newCap, entity)) :
    entity = args.runAsUser := by
  have hmem : ⟨"client.healthchecker", getDefaultUserCapsAndEntity⟩ ∈ kinds := by simp [kinds]
  have hkind := getCapsAndEntity_kind hmem args
  rw [h] at hkind
  cases hkind
  rfl

theorem leads_createCheckerKey (laws : AuthLaws party users) (hdry : args.dryRun = false)
    (us : Users) :
    Leads party users (createCheckerKey args "client.healthchecker") us
      (fun result us' => result.1 = args ∧ Grown args us us' ∧
        Opens us' args.runAsUser result.2)
      (Grown args us) := by
  apply (leads_createKey laws hdry "client.healthchecker" (by decide) _ us).bind
  rintro ⟨args', entity, key⟩ us' ⟨hargs, hgrown, ⟨newCap, hcaps⟩, hopens⟩
  exact leads_pure ⟨hargs, hgrown, entity_checker hcaps ▸ hopens⟩

theorem afterDot_client (name : String) : afterDot ("client." ++ name) = name := by
  have hclient : "client.".toList = ['c', 'l', 'i', 'e', 'n', 't', '.'] := by decide +kernel
  rw [afterDot, String.toList_append, hclient]
  simp [List.dropWhile]

theorem exists_append {front s : String} (h : front.toList <+: s.toList) :
    ∃ rest, s = front ++ rest := by
  obtain ⟨rest, hrest⟩ := h
  refine ⟨String.ofList rest, String.toList_inj.mp ?_⟩
  rw [String.toList_append, String.toList_ofList, hrest]

theorem prefix_of_base {user entity : String} (huser : user ∈ baseUsers)
    (hcsi : user ≠ "client.healthchecker") {newCap : Caps}
    (h : getCapsAndEntity args user = .ok (args, newCap, entity)) :
    user.toList <+: entity.toList := by
  obtain ⟨kind, hkind, rfl⟩ := exists_kind huser
  exact prefix_of_csi hkind hcsi (of_getCapsAndEntity_kind hkind h).2

theorem client_afterDot {user entity : String} (huser : user ∈ baseUsers)
    (hcsi : user ≠ "client.healthchecker") {newCap : Caps}
    (h : getCapsAndEntity args user = .ok (args, newCap, entity)) :
    "client." ++ afterDot entity = entity := by
  have hclient : ∀ user ∈ baseUsers, "client.".toList <+: user.toList := by decide +kernel
  obtain ⟨name, rfl⟩ := exists_append ((hclient user huser).trans (prefix_of_base huser hcsi h))
  rw [afterDot_client]

theorem leads_createCephCSIKeyringUser (laws : AuthLaws party users) (hdry : args.dryRun = false)
    (user : String) (huser : user ∈ baseUsers) (hcsi : user ≠ "client.healthchecker")
    (us : Users) :
    Leads party users (createCephCSIKeyringUser args user) us
      (fun result us' => result.1 = args ∧ Grown args us us' ∧
        Handed args user us' ("client." ++ result.2.2) result.2.1)
      (Grown args us) := by
  apply (leads_createKey laws hdry user huser _ us).bind
  rintro ⟨args', entity, key⟩ us' ⟨hargs, hgrown, ⟨newCap, hcaps⟩, hopens⟩
  dsimp only at hargs hcaps hopens
  subst hargs
  refine leads_pure ⟨rfl, hgrown, ?_⟩
  simp only [hdry, Bool.false_eq_true, if_false]
  rw [client_afterDot huser hcsi hcaps]
  exact ⟨⟨newCap, hcaps⟩, hopens⟩

def cephfsOut (node provisioner : Option String × String) : OutMap :=
  [("CSI_CEPHFS_NODE_SECRET", .ofOption node.1),
    ("CSI_CEPHFS_PROVISIONER_SECRET", .ofOption provisioner.1),
    ("CSI_CEPHFS_NODE_SECRET_NAME", .text node.2),
    ("CSI_CEPHFS_PROVISIONER_SECRET_NAME", .text provisioner.2)]

def noCephfsOut : OutMap :=
  [("CSI_CEPHFS_NODE_SECRET", .text ""), ("CSI_CEPHFS_PROVISIONER_SECRET", .text "")]

abbrev HandedCsi (args : Args) (user : String) (us : Users)
    (secret : Option String × String) : Prop :=
  Handed args user us ("client." ++ secret.2) secret.1

def CephfsOut (args : Args) (us : Users) (out : OutMap) : Prop :=
  if args.cephfsFilesystemName ≠ "" ∧ args.cephfsDataPoolName ≠ "" then
    ∃ node provisioner, out = cephfsOut node provisioner ∧
      HandedCsi args "client.csi-cephfs-node" us node ∧
      HandedCsi args "client.csi-cephfs-provisioner" us provisioner
  else out = noCephfsOut

theorem quiet_subvolumeGroupCommands {fs group : String} :
    ∀ cmd ∈ subvolumeGroupCommands fs group, Quiet (.checkOutput cmd) := fun _ _ => rfl

theorem leads_exportCephfs (laws : AuthLaws party users) (hdry : args.dryRun = false)
    (us : Users) :
    Leads party users (exportCephfs args) us
      (fun result us' => result.1 = args ∧ Grown args us us' ∧ CephfsOut args us' result.2)
      (Grown args us) := by
  rw [exportCephfs]
  split
  · rename_i hnames
    apply (leads_createCephCSIKeyringUser laws hdry "client.csi-cephfs-node" (by decide)
      (by decide) us).bind
    rintro ⟨args, node⟩ us₁ ⟨rfl, hgrown₁, hnode⟩
    have hsecond := leads_createCephCSIKeyringUser laws hdry "client.csi-cephfs-provisioner"
      (by decide) (by decide) us₁
    apply (hsecond.mono (fun _ _ h => h) (fun _ h => hgrown₁.trans h)).bind
    rintro ⟨args, provisioner⟩ us₂ ⟨rfl, hgrown₂, hprovisioner⟩
    have hgrown := hgrown₁.trans hgrown₂
    apply (asks_getOrCreateSubvolumeGroup quiet_subvolumeGroupCommands).leads_bind
      (AuthLaws.quiet laws) _ hgrown
    intro _ _
    apply (asks_pinSubvolume quiet_subvolumeGroupCommands).leads_bind (AuthLaws.quiet laws) _ hgrown
    intro _ _
    have hdone : Leads party users (pure (args, cephfsOut node provisioner) : Exporter _) us₂
        (fun result us' => result.1 = args ∧ Grown args us us' ∧ CephfsOut args us' result.2)
        (Grown args us) := by
      refine leads_pure ⟨rfl, hgrown, ?_⟩
      rw [CephfsOut, if_pos hnames]
      exact ⟨node, provisioner, rfl, hnode.grown hgrown₂, hprovisioner⟩
    split
    · apply (asks_getOrCreateSubvolumeGroup quiet_subvolumeGroupCommands).leads_bind
        (AuthLaws.quiet laws) _ hgrown
      intro _ _
      refine (asks_pinSubvolume quiet_subvolumeGroupCommands).leads_bind (AuthLaws.quiet laws) ?_
        hgrown
      exact fun _ _ => hdone
    · exact hdone
  · rename_i hnames
    exact leads_pure ⟨rfl, Grown.refl args us, by rw [CephfsOut, if_neg hnames]; rfl⟩

structure Valid (details : Details) (us : Users) : Prop where
  fsid : ∃ text, details.fsid = some text
  monData : ∃ text, details.monData = some text ∧ text ≠ ""
  checker : Opens us details.args.runAsUser details.userSecret
  rbdNode : HandedCsi details.args "client.csi-rbd-node" us details.rbdNode
  rbdProvisioner : HandedCsi details.args "client.csi-rbd-provisioner" us details.rbdProvisioner
  cephfs : CephfsOut details.args us details.cephfs
  rgw : RgwOut details.rgw

def GrownBy (py : Python) (args : Args) (us us' : Users) : Prop :=
  ∃ args', Filled (lowerClusterName py args) args' ∧ Grown args' us us'

theorem leads_genOutputMap (laws : AuthLaws party users) (hdry : args.dryRun = false)
    (py : Python) (us : Users) :
    Leads party users (genOutputMap py args) us
      (fun out us' => ∃ details, out = details.outMap ∧
        Filled (lowerClusterName py args) details.args ∧ Grown details.args us us' ∧
        Valid details us')
      (GrownBy py args us) := by
  rw [genOutputMap]
  apply (quiet_prepare py _).leads_bind (AuthLaws.quiet laws) _
    ⟨_, Filled.refl _, Grown.refl _ us⟩
  intro args₁ hfilled
  have hdry₁ : args₁.dryRun = false := by
    obtain ⟨fs, metadataPool, dataPool, rfl⟩ := hfilled
    exact hdry
  have hstop : ∀ us', Grown args₁ us us' → GrownBy py args us us' :=
    fun us' h => ⟨args₁, hfilled, h⟩
  generalize GrownBy py args us = E at hstop
  apply (quiet_getFsid args₁).leads_bind (AuthLaws.quiet laws) _ (hstop us (Grown.refl _ us))
  intro fsid hfsid
  apply (quiet_getCephExternalMonData args₁).leads_bind (AuthLaws.quiet laws) _
    (hstop us (Grown.refl _ us))
  intro monData hmonData
  apply ((leads_createCheckerKey laws hdry₁ us).mono (fun _ _ h => h) hstop).bind
  rintro ⟨args₁, userSecret⟩ us₁ ⟨rfl, hgrown₁, hchecker⟩
  apply (quiet_getCephDashboardLink args₁).leads_bind (AuthLaws.quiet laws) _ (hstop us₁ hgrown₁)
  intro dashboardLink _
  apply ((leads_createCephCSIKeyringUser laws hdry₁ "client.csi-rbd-node" (by decide)
    (by decide) us₁).mono (fun _ _ h => h) (fun us' h => hstop us' (hgrown₁.trans h))).bind
  rintro ⟨args₁, rbdNode⟩ us₂ ⟨rfl, hgrown₂, hnode⟩
  replace hgrown₁ := hgrown₁.trans hgrown₂
  apply ((leads_createCephCSIKeyringUser laws hdry₁ "client.csi-rbd-provisioner" (by decide)
    (by decide) us₂).mono (fun _ _ h => h) (fun us' h => hstop us' (hgrown₁.trans h))).bind
  rintro ⟨args₁, rbdProvisioner⟩ us₃ ⟨rfl, hgrown₃, hprovisioner⟩
  replace hgrown₁ := hgrown₁.trans hgrown₃
  apply ((leads_exportCephfs laws hdry₁ us₃).mono (fun _ _ h => h)
    (fun us' h => hstop us' (hgrown₁.trans h))).bind
  rintro ⟨args₁, cephfs⟩ us₄ ⟨rfl, hgrown₄, hcephfs⟩
  replace hgrown₁ := hgrown₁.trans hgrown₄
  apply (quiet_getActiveAndStandbyMgrs args₁).leads_bind (AuthLaws.quiet laws) _
    (hstop us₄ hgrown₁)
  intro monitoring _
  apply (quiet_validateRbdMetadataEcPoolName args₁).leads_bind (AuthLaws.quiet laws) _
    (hstop us₄ hgrown₁)
  intro ecPoolName _
  apply (quiet_exportRgw args₁).leads_bind (AuthLaws.quiet laws) _ (hstop us₄ hgrown₁)
  intro rgw hrgw
  refine leads_pure ⟨_, rfl, hfilled, hgrown₁, ?_⟩
  exact {
    fsid := hfsid hdry₁
    monData := hmonData hdry₁
    checker := ((hchecker.grown hgrown₂).grown hgrown₃).grown hgrown₄
    rbdNode := (hnode.grown hgrown₃).grown hgrown₄
    rbdProvisioner := hprovisioner.grown hgrown₄
    cephfs := hcephfs
    rgw := hrgw }

end Create

end MigrateImageRepository.ExternalCluster.Created
