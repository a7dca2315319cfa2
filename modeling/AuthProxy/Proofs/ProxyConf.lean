import AuthProxy.Proofs.Cluster.Versions
import AuthProxy.Proxy.Conf

/-! # What a configuration file tells

A configuration file depends on three values, and they can be read off it again: the port that is
listened on is all there is up to the first semicolon, and the port behind is what follows the last
colon of the address. The host in between may be any text, so nothing can be said from the front.
-/

namespace AuthProxy

/-- What stands before the first occurrence of an element, and what stands after it. -/
theorem append_cons_inj_of_not_mem {α : Type} {x : α} {l l' r r' : List α}
    (h : l ++ x :: r = l' ++ x :: r') (hl : x ∉ l) (hl' : x ∉ l') : l = l' ∧ r = r' := by
  induction l generalizing l' with
  | nil =>
    cases l' with
    | nil => exact ⟨rfl, (List.cons.inj h).2⟩
    | cons y t' =>
      obtain ⟨rfl, -⟩ := List.cons.inj h
      exact absurd List.mem_cons_self hl'
  | cons y t ih =>
    cases l' with
    | nil =>
      obtain ⟨rfl, -⟩ := List.cons.inj h
      exact absurd List.mem_cons_self hl
    | cons y' t' =>
      obtain ⟨rfl, hrest⟩ := List.cons.inj h
      obtain ⟨rfl, rfl⟩ := ih hrest (fun hx => hl (.tail _ hx)) (fun hx => hl' (.tail _ hx))
      exact ⟨rfl, rfl⟩

/-- What stands before the last occurrence of an element, and what stands after it. -/
theorem append_cons_inj_of_not_mem_right {α : Type} {x : α} {l l' r r' : List α}
    (h : l ++ x :: r = l' ++ x :: r') (hr : x ∉ r) (hr' : x ∉ r') : l = l' ∧ r = r' := by
  have hreverse := congrArg List.reverse h
  simp only [List.reverse_append, List.reverse_cons, List.append_assoc, List.singleton_append]
    at hreverse
  obtain ⟨hafter, hbefore⟩ := append_cons_inj_of_not_mem hreverse (by simpa using hr)
    (by simpa using hr')
  exact ⟨List.reverse_inj.1 hbefore, List.reverse_inj.1 hafter⟩

/-! ## Ports in decimal -/

theorem isDigit_of_mem_toString {n : Nat} {x : Char} (h : x ∈ (toString n).toList) :
    x.isDigit = true := by
  rw [show (toString n).toList = Nat.toDigits 10 n from Nat.toList_repr] at h
  exact Nat.isDigit_of_mem_toDigits (by decide) (by decide) h

theorem toString_negSucc (n : Nat) : toString (Int.negSucc n) = "-" ++ toString (n + 1) := rfl

/-- A decimal number is made of digits, with a sign at most. -/
theorem isDigit_or_sign_of_mem_toString {n : Int32} {x : Char} (h : x ∈ (toString n).toList) :
    x.isDigit = true ∨ x = '-' := by
  change x ∈ (toString n.toInt).toList at h
  cases hn : n.toInt with
  | ofNat m =>
    rw [hn] at h
    exact .inl (isDigit_of_mem_toString h)
  | negSucc m =>
    rw [hn, toString_negSucc, String.toList_append] at h
    rcases List.mem_append.1 h with hsign | hdigits
    · exact .inr (List.mem_singleton.1 hsign)
    · exact .inl (isDigit_of_mem_toString hdigits)

/-- Ports are told apart by their decimal numbers. -/
theorem port_text_inj {m n : Int32} (h : toString m = toString n) : m = n := by
  change toString m.toInt = toString n.toInt at h
  -- A sign is no digit.
  have hsign : ∀ i j : Nat, toString (Int.ofNat i) ≠ toString (Int.negSucc j) := by
    intro i j hij
    have hmem : '-' ∈ (toString i).toList := by
      rw [show toString i = toString (Int.ofNat i) from rfl, hij, toString_negSucc,
        String.toList_append]
      exact List.mem_append_left _ (by decide)
    exact absurd (isDigit_of_mem_toString hmem) (by decide)
  refine Int32.toInt_inj.1 ?_
  cases hm : m.toInt with
  | ofNat i =>
    cases hn : n.toInt with
    | ofNat j =>
      rw [hm, hn] at h
      rw [version_text_inj h]
    | negSucc j =>
      rw [hm, hn] at h
      exact absurd h (hsign i j)
  | negSucc i =>
    cases hn : n.toInt with
    | ofNat j =>
      rw [hm, hn] at h
      exact absurd h.symm (hsign j i)
    | negSucc j =>
      rw [hm, hn, toString_negSucc, toString_negSucc] at h
      have hsucc := version_text_inj (String.append_right_inj _ |>.1 h)
      rw [Nat.succ.inj hsucc]

namespace ProxyConf

variable {c d : ProxyConf}

/-- The values are told apart from what surrounds them: no number has this character. -/
theorem not_mem_toString {n : Int32} {x : Char} (hdigit : x.isDigit = false) (hsign : x ≠ '-') :
    x ∉ (toString n).toList := by
  intro hx
  rcases isDigit_or_sign_of_mem_toString hx with h | h
  · rw [hdigit] at h
    cases h
  · exact hsign h

/-- Whatever the host is, an address tells it and the port. -/
theorem backend_inj (h : c.backend = d.backend) :
    c.backendHost = d.backendHost ∧ c.backendPort = d.backendPort := by
  have hlists := congrArg String.toList h
  simp only [backend, String.toList_append, show (":" : String).toList = [':'] from rfl,
    List.append_assoc, List.singleton_append] at hlists
  obtain ⟨hhost, hport⟩ := append_cons_inj_of_not_mem_right hlists
    (not_mem_toString (by decide) (by decide)) (not_mem_toString (by decide) (by decide))
  exact ⟨String.toList_inj.1 hhost, port_text_inj (String.toList_inj.1 hport)⟩

/-- A configuration file is the same for all values, except where these stand. -/
theorem text_layout : ∃ opening middle closing : String, ∀ c : ProxyConf,
    c.text = opening ++ (toString c.listen ++ (";" ++ (middle ++ (c.backend ++ closing)))) := by
  refine ⟨String.join ["server \x7b", "\n", "    listen "],
    String.join ["\n", "\n", "    location / \x7b", "\n", "        auth_basic \"Restricted\";",
      "\n", "        auth_basic_user_file ", Proxy.credentialsMountPath, "/htpasswd;", "\n", "\n",
      "        proxy_pass http://"],
    String.join [";", "\n", "        proxy_set_header Host $host;", "\n",
      "        proxy_set_header X-Real-IP $remote_addr;", "\n",
      "        proxy_set_header X-Forwarded-For $proxy_add_x_forwarded_for;", "\n", "    \x7d",
      "\n", "\x7d", "\n"], fun c => ?_⟩
  simp only [text, lines, String.join, List.map, List.foldl, String.append_assoc,
    String.empty_append]

/-- **A configuration file tells its values.** -/
theorem text_inj : c.text = d.text ↔ c = d := by
  constructor
  · intro h
    obtain ⟨opening, middle, closing, hlayout⟩ := text_layout
    have hlists := congrArg String.toList h
    simp only [hlayout, String.toList_append, show (";" : String).toList = [';'] from rfl,
      List.singleton_append] at hlists
    obtain ⟨hlisten, hrest⟩ := append_cons_inj_of_not_mem
      (List.append_cancel_left hlists) (not_mem_toString (by decide) (by decide))
      (not_mem_toString (by decide) (by decide))
    have hbackend := List.append_cancel_right (List.append_cancel_left hrest)
    obtain ⟨hhost, hport⟩ := backend_inj (String.toList_inj.1 hbackend)
    have hport' := port_text_inj (String.toList_inj.1 hlisten)
    cases c
    cases d
    simp only [mk.injEq]
    exact ⟨hport', hhost, hport⟩
  · rintro rfl
    rfl

end ProxyConf

namespace Authenticator

variable {a b : Authenticator} {settings settings' : Settings}

/-- The host that the proxy passes requests on to. -/
def upstreamHost (a : Authenticator) : String :=
  match a.spec.mode with
  | .sidecar => "127.0.0.1"
  | .standalone => a.spec.appService

/-- A configuration file that there is holds the port that the proxy listens on, the host behind it
and the port there. -/
theorem confText_eq_ok {text : String} (h : a.confText settings = .ok text) :
    text = ProxyConf.text
      ⟨a.listenPort settings.defaultPort, a.upstreamHost, a.spec.appPort⟩ := by
  have hhost : ∀ host, a.backendHost = .ok host → host = a.upstreamHost := by
    intro host hhost
    unfold backendHost at hhost
    unfold upstreamHost
    cases hmode : a.spec.mode with
    | sidecar =>
      rw [hmode] at hhost
      exact (Except.ok.inj hhost).symm
    | standalone =>
      rw [hmode] at hhost
      by_cases hempty : a.spec.appService.isEmpty = true
      · simp [hempty] at hhost
      · simp only [hempty, Bool.false_eq_true, if_false] at hhost
        exact (Except.ok.inj hhost).symm
  unfold confText proxyConf at h
  cases hbackend : a.backendHost with
  | error e =>
    rw [hbackend] at h
    cases h
  | ok host =>
    rw [hbackend] at h
    rw [← hhost host hbackend]
    exact (Except.ok.inj h).symm

/-- Two authenticators, or one before and after a change, have the same effective configuration. -/
def SameConf (a b : Authenticator) (settings settings' : Settings) : Prop :=
  a.spec.proxyPort.getD settings.defaultPort = b.spec.proxyPort.getD settings'.defaultPort ∧
    a.upstreamHost = b.upstreamHost ∧ a.spec.appPort = b.spec.appPort

instance : Decidable (SameConf a b settings settings') := inferInstanceAs (Decidable (_ ∧ _))

/-- **The files are the same if and only if the values are.** -/
theorem confText_inj {text text' : String} (ha : a.confText settings = .ok text)
    (hb : b.confText settings' = .ok text') : text = text' ↔ SameConf a b settings settings' := by
  rw [confText_eq_ok ha, confText_eq_ok hb, ProxyConf.text_inj, ProxyConf.mk.injEq]
  rfl

end Authenticator

end AuthProxy
