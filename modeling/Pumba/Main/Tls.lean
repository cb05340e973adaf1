import Pumba.Go.Strings

/-! `tlsConfig`: the global TLS flags of `main` made into the client's `tls.Config`. A
certificate flag that starts with `/` names a file; any other is the PEM data itself. The file
system and the PEM parsers of `crypto/x509` and `crypto/tls` are left abstract, over a type
`Cert` of parsed certificates. -/
namespace Pumba.Main

open Pumba.Go

/-- The global flags `tlsConfig` reads. -/
structure TlsFlags where
  tls : Bool
  tlsverify : Bool
  tlscacert : String
  tlscert : String
  tlskey : String
  deriving DecidableEq, Repr

/-- The certificate directory of `main`: `DOCKER_CERT_PATH` when it is set, else
`/etc/ssl/docker`. -/
def rootCertPath (dockerCertPath : String) : String :=
  if dockerCertPath ≠ "" then dockerCertPath else "/etc/ssl/docker"

/-- The global TLS flags with `--tlscacert`, `--tlscert` and `--tlskey` at their defaults
under the certificate directory `root`. -/
def TlsFlags.withDefaults (root : String) (tls tlsverify : Bool) : TlsFlags :=
  ⟨tls, tlsverify, root ++ "/ca.pem", root ++ "/cert.pem", root ++ "/key.pem"⟩

/-- What `tlsConfig` reads besides its flags: `ioutil.ReadFile`, the certificates
`AppendCertsFromPEM` adds to a new pool (it drops what does not parse), and
`tls.X509KeyPair`. -/
structure TlsEnv (Cert : Type) where
  readFile : String → Except String String
  certsFromPEM : String → List Cert
  x509KeyPair : String → String → Except String Cert

/-- The fields of `tls.Config` that `tlsConfig` sets; `rootCAs` is `none` for a nil pool. -/
structure TlsConfig (Cert : Type) where
  insecureSkipVerify : Bool
  rootCAs : Option (List Cert)
  certificates : List Cert

section Model

variable {Cert : Type} (f : TlsFlags) (env : TlsEnv Cert)

/-- `tls.LoadX509KeyPair`: read both files, then parse them as a key pair. -/
def loadX509KeyPair (certFile keyFile : String) : Except String Cert := do
  let certPEMBlock ← env.readFile certFile
  let keyPEMBlock ← env.readFile keyFile
  env.x509KeyPair certPEMBlock keyPEMBlock

/-- The "Load CA cert" block of `tlsConfig`: the pool of `RootCAs`. -/
def loadCACert : Except String (Option (List Cert)) :=
  if f.tlscacert ≠ "" then do
    let caCert ← if hasPrefix f.tlscacert "/" then env.readFile f.tlscacert else pure f.tlscacert
    pure (some (env.certsFromPEM caCert))
  else pure none

/-- The "Load client certificate" block of `tlsConfig`: its `Certificates`. -/
def loadClientCert : Except String (List Cert) :=
  if f.tlscert ≠ "" ∧ f.tlskey ≠ "" then do
    let cert ← if hasPrefix f.tlscert "/" && hasPrefix f.tlskey "/" then
        loadX509KeyPair env f.tlscert f.tlskey
      else env.x509KeyPair f.tlscert f.tlskey
    pure [cert]
  else pure []

/-- `tlsConfig`; `none` is the nil `*tls.Config` of a client without TLS. -/
def tlsConfig : Except String (Option (TlsConfig Cert)) :=
  if f.tls || f.tlsverify then do
    let rootCAs ← loadCACert f env
    let certificates ← loadClientCert f env
    pure (some ⟨!f.tlsverify, rootCAs, certificates⟩)
  else pure none

end Model

/-- The files `tlsConfig` may read: with TLS on, the CA flag when it is a path, and the
certificate and key flags when both are. -/
def tlsPaths (f : TlsFlags) : List String :=
  if f.tls || f.tlsverify then
    (if hasPrefix f.tlscacert "/" then [f.tlscacert] else []) ++
      (if hasPrefix f.tlscert "/" && hasPrefix f.tlskey "/" then [f.tlscert, f.tlskey] else [])
  else []

lemma hasPrefix_slash_append {r : String} (s : String) (hr : r ≠ "") :
    hasPrefix (r ++ s) "/" = hasPrefix r "/" := by
  obtain ⟨c, cs, hc⟩ := List.exists_cons_of_ne_nil (mt String.ext hr)
  simp [hasPrefix, hc, List.isPrefixOf]

section Frame

variable {Cert : Type} (f : TlsFlags) {env env' : TlsEnv Cert}

lemma loadCACert_frame (hpem : env.certsFromPEM = env'.certsFromPEM)
    (hread : hasPrefix f.tlscacert "/" = true →
      env.readFile f.tlscacert = env'.readFile f.tlscacert) :
    loadCACert f env = loadCACert f env' := by
  unfold loadCACert
  by_cases hp : hasPrefix f.tlscacert "/" = true <;> simp [hp, hpem, hread]

lemma loadClientCert_frame (hpair : env.x509KeyPair = env'.x509KeyPair)
    (hread : hasPrefix f.tlscert "/" && hasPrefix f.tlskey "/" →
      env.readFile f.tlscert = env'.readFile f.tlscert ∧
        env.readFile f.tlskey = env'.readFile f.tlskey) :
    loadClientCert f env = loadClientCert f env' := by
  unfold loadClientCert loadX509KeyPair
  by_cases hp : (hasPrefix f.tlscert "/" && hasPrefix f.tlskey "/") = true
  · simp [hp, hpair, hread hp]
  · simp [hp, hpair]

/-- `tlsConfig` reads no file but those `tlsPaths` names: two environments whose parsers agree
and whose file systems agree on those paths give the same configuration or the same error. -/
theorem tlsConfig_reads_only (hpem : env.certsFromPEM = env'.certsFromPEM)
    (hpair : env.x509KeyPair = env'.x509KeyPair)
    (hread : ∀ p ∈ tlsPaths f, env.readFile p = env'.readFile p) :
    tlsConfig f env = tlsConfig f env' := by
  unfold tlsConfig
  by_cases ht : (f.tls || f.tlsverify) = true
  · simp only [tlsPaths, ht, if_true, List.mem_append] at hread
    rw [loadCACert_frame f hpem fun hp => hread _ (.inl (by simp [hp])),
      loadClientCert_frame f hpair fun hp => ⟨hread _ (.inr (by simp [hp])),
        hread _ (.inr (by simp [hp]))⟩]
  · simp [ht]

end Frame

/-- With verification on and the certificates under `/etc/ssl/docker`, `tlsConfig` cannot
tell apart two file systems that differ only on `/etc/passwd`. -/
theorem tlsConfig_reads_only_passwd :
    tlsConfig (TlsFlags.withDefaults (rootCertPath "") true true)
        (⟨fun _ => .ok "", fun _ => [], fun _ _ => .ok ()⟩ : TlsEnv Unit) =
      tlsConfig (TlsFlags.withDefaults (rootCertPath "") true true)
        ⟨fun p => if p = "/etc/passwd" then .error "denied" else .ok "", fun _ => [],
          fun _ _ => .ok ()⟩ :=
  tlsConfig_reads_only _ rfl rfl fun p hp => by
    have hne : p ≠ "/etc/passwd" := (by decide : ∀ q ∈ tlsPaths
      (TlsFlags.withDefaults (rootCertPath "") true true), q ≠ "/etc/passwd") p hp
    simp [hne]

lemma append_ne_empty {r : String} (s : String) (hr : r ≠ "") : r ++ s ≠ "" := fun h =>
  hr (String.ext (List.append_eq_nil.1 (congrArg String.data h)).1)

/-- Under a relative `DOCKER_CERT_PATH` the default certificate flags are not paths: with TLS
on, `tlsConfig` reads no file, hands the three flags' own texts to the PEM parsers, and ends as
the key-pair parser does on the two path texts. -/
theorem tlsConfig_relative_cert_path {Cert : Type} {e : String} (he : e ≠ "")
    (hrel : hasPrefix e "/" = false) {tls tlsverify : Bool} (h : (tls || tlsverify) = true)
    (env : TlsEnv Cert) :
    tlsConfig (TlsFlags.withDefaults (rootCertPath e) tls tlsverify) env =
      (env.x509KeyPair (e ++ "/cert.pem") (e ++ "/key.pem")).map fun cert =>
        some ⟨!tlsverify, some (env.certsFromPEM (e ++ "/ca.pem")), [cert]⟩ := by
  have hroot : rootCertPath e = e := if_pos he
  simp [tlsConfig, loadCACert, loadClientCert, TlsFlags.withDefaults, hroot, h,
    hasPrefix_slash_append _ he, hrel, append_ne_empty _ he]
  cases env.x509KeyPair (e ++ "/cert.pem") (e ++ "/key.pem") <;> rfl

/-- With `DOCKER_CERT_PATH=certs` and `--tls`, the key-pair parser meets the text
`certs/cert.pem`, which holds no PEM data, and `tlsConfig` fails without reading a file. -/
theorem tlsConfig_relative_cert_path_certs :
    tlsConfig (TlsFlags.withDefaults (rootCertPath "certs") true false)
        (⟨fun _ => .ok "", fun _ => [],
          fun _ _ => .error "tls: failed to find any PEM data in certificate input"⟩ : TlsEnv Unit) =
      .error "tls: failed to find any PEM data in certificate input" :=
  (@tlsConfig_relative_cert_path Unit "certs" (by decide) (by decide) true false rfl _).trans rfl

end Pumba.Main
