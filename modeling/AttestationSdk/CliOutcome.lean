import AttestationSdk.CliPrepared
import AttestationSdk.NonceHex

/-! What the end of a process of `attest` tells its caller. -/
namespace AttestationSdk.Cli
open AttestationSdk.Claims AttestationSdk.Attestation AttestationSdk.Rim AttestationSdk.Eat
open AttestationSdk.Gpu AttestationSdk.Switch AttestationSdk.Collect AttestationSdk.LocalVerifier
open AttestationSdk.OverallPolicy Json Effects Prog
variable {σ : Type}

section Trust
variable {env : Platform σ}

end Trust

section Outcome
variable {decodeBlock : List Char → Option Bytes} {files : FileSystem σ} {host : Host σ}
  {options : CommandOptions}

end Outcome
end AttestationSdk.Cli

namespace AttestationSdk.GpuSample
open AttestationSdk.Claims AttestationSdk.Text AttestationSdk.Gpu AttestationSdk.Attestation
open AttestationSdk.Collect AttestationSdk.Evidence AttestationSdk.LocalVerifier AttestationSdk.Cli
open AttestationSdk.OverallPolicy AttestationSdk.Report AttestationSdk.Rim AttestationSdk.Switch
open AttestationSdk.Eat Json Effects Prog

section Parse
variable (platform : Platform Unit) (parse : String → Option Value)

end Parse

end AttestationSdk.GpuSample
