import Pinguin.Api.StatusTheorems
import Pinguin.Api.SuspensionTheorems
import Pinguin.Client.Wait
import Pinguin.Forwarding.ReplyTheorems
import Pinguin.Forwarding.SplitTheorems
import Pinguin.Notify.DeliveryTheorems
import Pinguin.Notify.EditTheorems
import Pinguin.Notify.HeaderTheorems
import Pinguin.Notify.Lifecycle
import Pinguin.Notify.MimeTheorems
import Pinguin.Notify.PageTheorems
import Pinguin.Notify.RecordTheorems
import Pinguin.Notify.SearchTheorems
import Pinguin.Notify.SendTheorems
import Pinguin.Notify.TenantTheorems
import Pinguin.Smtp.Servers
import Pinguin.SmtpIdentity.AuthTheorems
import Pinguin.SmtpIdentity.CallTheorems
import Pinguin.SmtpIdentity.DisplayedRecords
import Pinguin.SmtpIdentity.LoopTheorems
import Pinguin.SmtpIdentity.NormalForm
import Pinguin.SmtpIdentity.OwnerTheorems
import Pinguin.Submission.DirectRelayTheorems
import Pinguin.Submission.MessageQuota
import Pinguin.Submission.ThrottleTheorems
import Pinguin.Tenancy.IdentityTheorems
import Pinguin.Smtp.SessionLimitTheorems
import Pinguin.Smtp.MemoryTheorems
import Pinguin.Submission.StartTLS
import Pinguin.SmtpIdentity.VerificationTheorems
import Pinguin.Forwarding.RelayTheorems
import Pinguin.Startup.CrossTheorems
import Pinguin.Startup.DoctorTheorems
import Pinguin.Smtp.DataReference
import Pinguin.Tenancy.SenderCacheTheorems
import Pinguin.Release.CalVerTheorems
import Pinguin.Web.TableTheorems
import Pinguin.Notify.Settling
import Pinguin.Smtp.LiveStore
import Pinguin.Smtp.Hop
