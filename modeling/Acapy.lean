import Acapy.Basic
import Acapy.Store
import Acapy.Anoncreds.Registry
import Acapy.Issuer.CreateCredential
import Acapy.Issuer.RevokeCredentials
import Acapy.Issuer.RevocationRegistry
import Acapy.Issuer.Registration
import Acapy.Issuer.Schema
import Acapy.Issuer.CredDef
import Acapy.Issuer.Tails
import Acapy.Revocation.Anoncreds
import Acapy.Issuer.Wallet
import Acapy.Revocation.ActiveRegistry
import Acapy.PresentProof.IndyProof
import Acapy.PresentProof.ReceivePres
import Acapy.PresentProof.VerifyPres
import Acapy.PresentProof.Supplements
import Acapy.System.Step
import Acapy.System.Effects
import Acapy.System.Allocation
import Acapy.System.Revocation
import Acapy.System.Lifecycle
import Acapy.System.Retirement
import Acapy.System.Retry
import Acapy.System.Alone
import Acapy.System.Wallet
