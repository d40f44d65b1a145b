import Ansible.AppView.InboxAuthority
import Ansible.AppView.WebProvenance
import Ansible.Issuer.AdministratorKeys
import Ansible.Issuer.DelegationEvidence
import Ansible.Issuer.DelegationLifecycle
import Ansible.Issuer.OnePerson
import Ansible.Issuer.PostgresSessions
import Ansible.Relay.ActorNaming
import Ansible.Relay.AnchorGenesis
import Ansible.Relay.ContentObjects
import Ansible.Relay.DeliveryOrder
import Ansible.Relay.InboundHttpSignature
import Ansible.Relay.Mailbox
import Ansible.Relay.PolicyVersions
import Ansible.Relay.PreKeyBundles
import Ansible.Relay.Registration
import Ansible.Relay.WebSessionLaw
import Ansible.Client.AnchorFlows
import Ansible.Client.AppSync
import Ansible.Client.ReceivedMessages
import Ansible.Issuer.SingleIssuance
import Ansible.Relay.SignedWrites
import Ansible.Client.RotatedOps
import Ansible.AppView.HomeAuth
import Ansible.Issuer.TemplateVersions
import Ansible.Relay.PublicationProof
import Ansible.AppView.HomeRuns
import Ansible.AppView.SharedFeed
import Ansible.Client.ConsistentResolver
import Ansible.Client.FollowService
import Ansible.Client.MessageOrigin
import Ansible.Client.RadixCodecs
import Ansible.Issuer.CredentialAgreement
import Ansible.Relay.AnchorBodies
import Ansible.Relay.CreationRuns
import Ansible.Relay.PayloadReaders
import Ansible.Relay.SignedIntent
import Ansible.Relay.TierUpgrade
import Ansible.Issuer.OtpStore
import Ansible.Issuer.StatusList
import Ansible.Relay.AccessEvaluation
import Ansible.Relay.CapabilityProofs
import Ansible.Relay.IdentityEquivalence
import Ansible.Relay.P256Signatures
import Ansible.Relay.Polls
import Ansible.Relay.Reports
import Ansible.Relay.IssuerTypes
import Ansible.Relay.RecoveryCodes
import Ansible.Relay.WebauthnCounts
