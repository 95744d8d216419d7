import Wattetheria.BridgeContentProofs
import Wattetheria.DeliveryAttemptProofs
import Wattetheria.DirectMessageGate
import Wattetheria.EscrowCustodyProofs
import Wattetheria.EventCancelProofs
import Wattetheria.EventLogProofs
import Wattetheria.EventPublishProofs
import Wattetheria.GovernanceGenesisProofs
import Wattetheria.GovernanceStatusProofs
import Wattetheria.GovernanceTreasuryProofs
import Wattetheria.GovernanceVoteProofs
import Wattetheria.HashcashProofs
import Wattetheria.HiveRegistry
import Wattetheria.MissionRelayProofs
import Wattetheria.OraclePullProofs
import Wattetheria.ValidatorRotationProofs
import Wattetheria.ClaimKeyProofs
import Wattetheria.OrganizationProofs
import Wattetheria.PaymentMergeProofs
import Wattetheria.PaymentPersistenceProofs
import Wattetheria.PaymentQueries
import Wattetheria.PaymentRaceProofs
import Wattetheria.PaymentReceiptProofs
import Wattetheria.PaymentReplicaProofs
import Wattetheria.PaymentSignatureProofs
import Wattetheria.PaymentTerminalProofs
import Wattetheria.PolicyEngine
import Wattetheria.ReceiptFieldProofs
import Wattetheria.SecretRotationProofs
import Wattetheria.ServiceIntegrityProofs
import Wattetheria.SignedContentProofs
import Wattetheria.SocialPolicyProofs
import Wattetheria.SocialRequestProofs
import Wattetheria.SocialRevivalProofs
import Wattetheria.SocialThreadProofs
import Wattetheria.SpaceCatalog
import Wattetheria.StablecoinAmounts
import Wattetheria.WebhookAddresses
