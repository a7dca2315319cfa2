import AuthProxy.Proofs.Dependents
import AuthProxy.Proxy.Outline
import Mathlib.Data.List.Forall2

/-! # Shapes of Deployments

When two Deployments have the same shape, field by field and with what is meant where a field is
absent, and which shape the Deployment of a standalone proxy has. Nothing here is computed by the
program: that its outlines compare just the shapes is a theorem (`Deployment.outline_eq_iff`), and
so is that the Deployment it makes has the shape of a proxy (`Authenticator.isProxyOf_iff`).
-/

namespace AuthProxy

/-! ## What is compared -/

namespace Container

/-- The numbers of the ports. -/
def portNumbers (c : Container) : List Int32 := (c.ports.getD []).map (·.containerPort)

/-- The volumes that are mounted, where, and whether they are read only. If nothing is said, the
container may write to them. -/
def mountPoints (c : Container) : List (String × String × Bool) :=
  (c.volumeMounts.getD []).map fun m => (m.name, m.mountPath, m.readOnly.getD false)

/-- The containers have the same name, image, ports and mounts. -/
structure SameShape (c x : Container) : Prop where
  name : c.name = x.name
  image : c.image = x.image
  ports : c.portNumbers = x.portNumbers
  mounts : c.mountPoints = x.mountPoints

end Container

/-- The volumes have the same name, and the same ConfigMap or Secret behind it. -/
structure Volume.SameShape (v w : Volume) : Prop where
  name : v.name = w.name
  configMap : v.configMap.map (·.name) = w.configMap.map (·.name)
  secret : v.secret.bind (·.secretName) = w.secret.bind (·.secretName)

namespace Deployment

/-- The replicas that a Deployment asks for, if it says so. -/
def replicas? (d : Deployment) : Option Int32 := d.spec.bind (·.replicas)

/-- The labels by which the Deployment finds its pods. -/
def selectorLabels (d : Deployment) : Labels := (d.spec.bind (·.selector.matchLabels)).getD .empty

/-- The labels of the pods. -/
def templateLabels (d : Deployment) : Labels :=
  (d.spec.bind fun s => s.template.metadata.bind (·.labels)).getD .empty

/-- The containers of the pods. -/
def containers (d : Deployment) : List Container :=
  ((d.spec.bind (·.template.spec)).map (·.containers)).getD []

/-- The volumes of the pods. -/
def volumes (d : Deployment) : List Volume :=
  ((d.spec.bind (·.template.spec)).bind (·.volumes)).getD []

/-- The Deployments agree in all that the operator manages. One that does not say how many replicas
it has asks for one. -/
structure SameShape (d x : Deployment) : Prop where
  replicas : d.replicas?.getD 1 = x.replicas?.getD 1
  selectorLabels : d.selectorLabels = x.selectorLabels
  templateLabels : d.templateLabels = x.templateLabels
  containers : List.Forall₂ Container.SameShape d.containers x.containers
  volumes : List.Forall₂ Volume.SameShape d.volumes x.volumes

end Deployment

/-! ## Outlines compare shapes -/

/-- Lists have the same image if their elements have, one by one. -/
theorem map_eq_map_iff_forall₂ {α β : Type} {f : α → β} {R : α → α → Prop} {l l' : List α}
    (h : ∀ x y, f x = f y ↔ R x y) : l.map f = l'.map f ↔ List.Forall₂ R l l' := by
  rw [← List.forall₂_eq_eq_eq, List.forall₂_map_left_iff, List.forall₂_map_right_iff]
  simp only [h]

theorem Container.outline_eq_iff (c x : Container) : c.outline = x.outline ↔ c.SameShape x := by
  simp only [outline, ContainerOutline.mk.injEq]
  constructor
  · intro ⟨hname, himage, hports, hmounts⟩
    exact ⟨hname, himage, hports, hmounts⟩
  · intro h
    exact ⟨h.name, h.image, h.ports, h.mounts⟩

theorem Volume.outline_eq_iff (v w : Volume) : v.outline = w.outline ↔ v.SameShape w := by
  simp only [outline, VolumeOutline.mk.injEq]
  constructor
  · intro ⟨hname, hmap, hsecret⟩
    exact ⟨hname, hmap, hsecret⟩
  · intro h
    exact ⟨h.name, h.configMap, h.secret⟩

namespace Deployment

variable {d x : Deployment}

theorem outline_eq (d : Deployment) :
    d.outline = ⟨d.replicas?.getD 1, d.selectorLabels, d.templateLabels,
      d.containers.map (·.outline), d.volumes.map (·.outline)⟩ := by
  cases hs : d.spec with
  | none =>
    simp [outline, DeploymentSpec.outline, replicas?, selectorLabels, templateLabels, containers,
      volumes, hs]
  | some s =>
    cases hp : s.template.spec <;>
      simp [outline, DeploymentSpec.outline, replicas?, selectorLabels, templateLabels, containers,
        volumes, hs, hp]

/-- **Two outlines are the same if and only if the shapes are.** -/
theorem outline_eq_iff : d.outline = x.outline ↔ d.SameShape x := by
  simp only [outline_eq, DeploymentOutline.mk.injEq,
    map_eq_map_iff_forall₂ Container.outline_eq_iff, map_eq_map_iff_forall₂ Volume.outline_eq_iff]
  constructor
  · intro ⟨hreplicas, hselector, hlabels, hcontainers, hvolumes⟩
    exact ⟨hreplicas, hselector, hlabels, hcontainers, hvolumes⟩
  · intro h
    exact ⟨h.replicas, h.selectorLabels, h.templateLabels, h.containers, h.volumes⟩

instance (d x : Deployment) : Decidable (d.SameShape x) := decidable_of_iff _ outline_eq_iff

end Deployment

/-! ## The shape of a proxy -/

/-- The container runs the proxy: it has this image, listens on this port, and sees the
configuration and the credentials without being able to change them. -/
structure Container.IsProxy (c : Container) (image : String) (port : Int32) : Prop where
  name : c.name = "basic-auth-proxy"
  image : c.image = some image
  ports : c.portNumbers = [port]
  mounts : c.mountPoints = [
    ("basic-auth-nginx-conf", "/etc/nginx/conf.d", true),
    ("basic-auth-credentials", "/etc/nginx/secret", true)]

/-- The labels are those of the dependents of the authenticator called `name`. -/
def IsLabelledFor (name : String) (labels : Labels) : Prop :=
  labels.entries = [
    ("app.kubernetes.io/instance", name),
    ("app.kubernetes.io/managed-by", "basic-authenticator"),
    ("app.kubernetes.io/name", "basic-authenticator")]

/-- The Deployment has the shape of the proxy of `a`, with `n` replicas, the configuration in the
ConfigMap called `map` and the credentials in the Secret called `secret`. -/
structure Deployment.IsProxyOf (d : Deployment) (a : Authenticator) (settings : Settings)
    (secret map : String) (n : Int32) : Prop where
  replicas : d.replicas?.getD 1 = n
  selectorLabels : IsLabelledFor (a.metadata.name.getD "") d.selectorLabels
  templateLabels : IsLabelledFor (a.metadata.name.getD "") d.templateLabels
  containers : ∃ c, d.containers = [c] ∧
    c.IsProxy settings.image (a.spec.proxyPort.getD settings.defaultPort)
  volumes : List.Forall₂ Volume.SameShape d.volumes [
    { name := "basic-auth-nginx-conf", configMap := some { name := map } },
    { name := "basic-auth-credentials", secret := some { secretName := some secret } }]

namespace Authenticator

variable {a : Authenticator} {settings : Settings} {secret map : String} {n : Int32}
  {d desired : Deployment}

theorem isLabelledFor_iff (h : a.Identified) {labels : Labels} :
    IsLabelledFor (a.metadata.name.getD "") labels ↔ labels = a.dependentLabels := by
  obtain ⟨name, hname⟩ := Option.isSome_iff_exists.1 h.name_isSome
  have hinstance : compare "app.kubernetes.io/instance" "app.kubernetes.io/name" = .lt := by
    decide +kernel
  have hmanager : compare "app.kubernetes.io/managed-by" "app.kubernetes.io/instance" = .gt := by
    decide +kernel
  have hbefore : compare "app.kubernetes.io/managed-by" "app.kubernetes.io/name" = .lt := by
    decide +kernel
  have hentries : a.dependentLabels.entries = [
      ("app.kubernetes.io/instance", name),
      ("app.kubernetes.io/managed-by", "basic-authenticator"),
      ("app.kubernetes.io/name", "basic-authenticator")] := by
    simp [dependentLabels, SortedMap.ofList, SortedMap.insert, SortedMap.insertEntry,
      SortedMap.empty, hinstance, hmanager, hbefore, nameAny, ObjectMeta.nameAny, hname,
      operatorName]
  rw [IsLabelledFor, hname, Option.getD_some, ← hentries]
  constructor
  · intro hsame
    exact SortedMap.ext hsame
  · intro hsame
    rw [hsame]

theorem isProxy_iff {c : Container} :
    c.IsProxy settings.image (a.spec.proxyPort.getD settings.defaultPort) ↔
      c.SameShape (a.proxy settings) := by
  constructor
  · intro h
    exact ⟨h.name, h.image, h.ports, h.mounts⟩
  · intro h
    exact ⟨h.name, h.image, h.ports, h.mounts⟩

/-- Only a single container has the shape of the proxy's containers. -/
theorem forall₂_proxy_iff {containers : List Container} :
    List.Forall₂ Container.SameShape containers [a.proxy settings] ↔ ∃ c, containers = [c] ∧
      c.IsProxy settings.image (a.spec.proxyPort.getD settings.defaultPort) := by
  simp only [List.forall₂_cons_right_iff, List.forall₂_nil_right_iff, isProxy_iff]
  constructor
  · intro ⟨c, rest, hc, hrest, hall⟩
    exact ⟨c, by rw [hall, hrest], hc⟩
  · intro ⟨c, hall, hc⟩
    exact ⟨c, [], hc, rfl, hall⟩

/-- **The Deployment that is made for an authenticator has the shape of its proxy**, and so has
just what has the same shape. -/
theorem isProxyOf_iff (h : a.makeDeployment secret map n settings = .ok desired) :
    d.IsProxyOf a settings secret map n ↔ d.SameShape desired := by
  obtain ⟨hdependent, hspec⟩ := makeDeployment_eq_ok h
  have hid := hdependent.identified
  have hreplicas : desired.replicas? = some n := by
    simp [Deployment.replicas?, hspec, deploymentSpec]
  have hselector : desired.selectorLabels = a.dependentLabels := by
    simp [Deployment.selectorLabels, hspec, deploymentSpec]
  have htemplate : desired.templateLabels = a.dependentLabels := by
    simp [Deployment.templateLabels, hspec, deploymentSpec, proxyTemplate]
  have hcontainers : desired.containers = [a.proxy settings] := by
    simp [Deployment.containers, hspec, deploymentSpec, proxyTemplate]
  have hvolumes : desired.volumes = Proxy.volumes secret map := by
    simp [Deployment.volumes, hspec, deploymentSpec, proxyTemplate]
  constructor
  · intro hd
    refine ⟨?_, ?_, ?_, ?_, ?_⟩
    · rw [hreplicas, hd.replicas, Option.getD_some]
    · rw [hselector, (isLabelledFor_iff hid).1 hd.selectorLabels]
    · rw [htemplate, (isLabelledFor_iff hid).1 hd.templateLabels]
    · rw [hcontainers, forall₂_proxy_iff]
      exact hd.containers
    · rw [hvolumes]
      exact hd.volumes
  · intro hd
    refine ⟨?_, ?_, ?_, ?_, ?_⟩
    · rw [hd.replicas, hreplicas, Option.getD_some]
    · rw [isLabelledFor_iff hid, hd.selectorLabels, hselector]
    · rw [isLabelledFor_iff hid, hd.templateLabels, htemplate]
    · rw [← forall₂_proxy_iff, ← hcontainers]
      exact hd.containers
    · have hsame := hd.volumes
      rw [hvolumes] at hsame
      exact hsame

end Authenticator

end AuthProxy
